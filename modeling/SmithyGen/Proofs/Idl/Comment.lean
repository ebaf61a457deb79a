import SmithyGen.Idl.Comment
import SmithyGen.Proofs.Search

namespace SmithyGen.Idl

open Matcher

theorem length_lt_of_afterClose? {cs rest : List Char} (h : afterClose? cs = some rest) :
    rest.length < cs.length := by
  fun_induction afterClose? cs with
  | case1 => cases h
  | case2 cs =>
    obtain rfl := Option.some.inj h
    simp only [List.length_cons]
    omega
  | case3 c cs _ ih =>
    have hlt := ih h
    rw [List.length_cons]
    omega

theorem isSome_afterClose? (cs : List Char) : (afterClose? cs).isSome ↔ ['*', '/'] <:+: cs := by
  fun_induction afterClose? cs with
  | case1 => simp
  | case2 cs => exact ⟨fun _ => ⟨[], cs, rfl⟩, fun _ => rfl⟩
  | case3 c cs hclose ih =>
    rw [ih, List.infix_cons_iff]
    -- The two characters do not stand right here, or the clause before this one applies.
    refine ⟨.inr, fun h => h.resolve_left ?_⟩
    rintro ⟨rest, heq⟩
    obtain ⟨rfl, rfl⟩ := List.cons.inj heq
    exact hclose rest rfl rfl

theorem slashes?_eq_some {cs rest : List Char} :
    slashes? cs = some rest
      ↔ ∃ ys, cs = '/' :: '/' :: ys ∧ ys.head? ≠ some '/' ∧ rest = ys.dropWhile (· != '\n') := by
  unfold slashes?
  split
  next ys => simp
  next ys hthird =>
    have hhead : ys.head? ≠ some '/' := by
      intro hhead
      obtain ⟨zs, rfl⟩ := List.head?_eq_some_iff.mp hhead
      exact hthird zs rfl
    constructor
    · intro h
      exact ⟨ys, rfl, hhead, (Option.some.inj h).symm⟩
    · rintro ⟨zs, heq, -, rfl⟩
      obtain rfl : ys = zs := by simpa using heq
      rfl
  next hpair =>
    constructor
    · intro h
      cases h
    · rintro ⟨zs, rfl, -, -⟩
      exact absurd rfl (hpair zs)

theorem slashes?_eq_none_iff {cs : List Char} :
    slashes? cs = none ↔ ∀ back, cs = '/' :: '/' :: back → back.head? = some '/' := by
  constructor
  · intro h back hcs
    by_contra hthird
    rw [slashes?_eq_some.mpr ⟨back, hcs, hthird, rfl⟩] at h
    cases h
  · intro h
    by_contra hsome
    obtain ⟨rest, hrest⟩ := Option.ne_none_iff_exists'.mp hsome
    obtain ⟨back, hcs, hthird, -⟩ := slashes?_eq_some.mp hrest
    exact hthird (h back hcs)

theorem shrinks_blockComment : Shrinks blockComment := by
  intro before taken new rest h
  unfold blockComment at h
  split at h
  next cs =>
    obtain ⟨left, hclose, hpair⟩ := Option.map_eq_some_iff.mp h
    obtain ⟨rfl, rfl⟩ := Prod.mk.inj hpair
    have hlt := length_lt_of_afterClose? hclose
    simp only [List.length_nil, List.length_cons]
    omega
  next => cases h

theorem length_lt_of_slashes? {cs rest : List Char} (h : slashes? cs = some rest) :
    rest.length < cs.length := by
  obtain ⟨ys, rfl, -, rfl⟩ := slashes?_eq_some.mp h
  have hle := (List.dropWhile_sublist (l := ys) (· != '\n')).length_le
  simp only [List.length_cons]
  omega

theorem lineComment_cases {before : Option Char} {cs new rest : List Char}
    (h : lineComment before cs = some (new, rest)) :
    (new = [] ∧ slashes? cs = some rest)
      ∨ ∃ c ys, cs = c :: ys ∧ new = [c] ∧ slashes? ys = some rest := by
  unfold lineComment at h
  split at h
  next left hstart =>
    obtain ⟨rfl, rfl⟩ := Prod.mk.inj (Option.some.inj h)
    split_ifs at hstart
    exact .inl ⟨rfl, hstart⟩
  next =>
    cases cs with
    | nil => cases h
    | cons c ys =>
      dsimp only at h
      split_ifs at h
      obtain ⟨left, hslashes, hpair⟩ := Option.map_eq_some_iff.mp h
      obtain ⟨rfl, rfl⟩ := Prod.mk.inj hpair
      exact .inr ⟨c, ys, rfl, rfl, hslashes⟩

theorem lineComment_eq_none_iff {before : Option Char} {cs : List Char} :
    lineComment before cs = none
      ↔ (startsLine before → slashes? cs = none)
        ∧ ∀ c ys, cs = c :: ys → Text.isInlineBlank c → slashes? ys = none := by
  unfold lineComment
  by_cases hstart : startsLine before
  · simp only [hstart, if_true, forall_true_left]
    cases hslashes : slashes? cs with
    | some rest => simp
    | none => cases cs <;> simp
  · simp only [hstart]
    cases cs <;> simp

theorem shrinks_lineComment : Shrinks lineComment := by
  intro before taken new rest h
  rcases lineComment_cases h with ⟨rfl, hslashes⟩ | ⟨c, ys, rfl, rfl, hslashes⟩
  · have hlt := length_lt_of_slashes? hslashes
    simpa using hlt
  · have hlt := length_lt_of_slashes? hslashes
    simp only [List.length_cons, List.length_nil]
    omega

/-- A block comment: `/*` with a `*/` somewhere after it. -/
def HasBlockComment (cs : List Char) : Prop :=
  ∃ front back, cs = front ++ '/' :: '*' :: back ∧ ['*', '/'] <:+: back

/-- A line comment: two slashes and no third, at the start of a line or after a blank. -/
def HasLineComment (cs : List Char) : Prop :=
  ∃ front back, cs = front ++ '/' :: '/' :: back ∧ back.head? ≠ some '/'
    ∧ ∀ c ∈ front.getLast?, c = '\n' ∨ Text.isInlineBlank c

theorem blockComment_eq_none_iff {before : Option Char} {cs : List Char} :
    blockComment before cs = none ↔ ∀ back, cs = '/' :: '*' :: back → ¬['*', '/'] <:+: back := by
  unfold blockComment
  split
  next ys => simp [← isSome_afterClose?]
  next hopen =>
    exact ⟨fun _ back heq => absurd heq (hopen back), fun _ => rfl⟩

theorem passes_blockComment_iff {cs : List Char} :
    Passes blockComment none cs [] ↔ ¬HasBlockComment cs := by
  simp only [passes_iff, List.append_nil, blockComment_eq_none_iff]
  constructor
  · rintro h ⟨front, back, heq, hclose⟩
    exact h front '/' ('*' :: back) heq back rfl hclose
  · intro h front c back heq left hleft hclose
    exact h ⟨front, left, by rw [heq, hleft], hclose⟩

theorem startsLine_lastOf (front : List Char) :
    startsLine (lastOf none front) ↔ ∀ c ∈ front.getLast?, c = '\n' := by
  rw [lastOf, Option.or_none, startsLine]
  cases front.getLast? <;> simp

theorem passes_lineComment_iff {cs : List Char} :
    Passes lineComment none cs [] ↔ ¬HasLineComment cs := by
  simp only [passes_iff, List.append_nil, lineComment_eq_none_iff, startsLine_lastOf,
    slashes?_eq_none_iff]
  constructor
  · rintro h ⟨front, back, heq, hthird, hbefore⟩
    -- After a blank the match starts at the blank, one place before the slashes.
    rcases List.eq_nil_or_concat' front with rfl | ⟨front, c, rfl⟩
    · exact hthird ((h [] '/' ('/' :: back) heq).1 (by simp) back rfl)
    · rcases hbefore c (by simp) with rfl | hblank
      · exact hthird ((h (front ++ ['\n']) '/' ('/' :: back) heq).1 (by simp) back rfl)
      · rw [List.append_assoc] at heq
        exact hthird ((h front c ('/' :: '/' :: back) heq).2 c _ rfl hblank back rfl)
  · intro h front c back heq
    constructor
    · intro hstart ys hys
      by_contra hthird
      exact h ⟨front, ys, by rw [heq, hys], hthird, fun d hd => .inl (hstart d hd)⟩
    · rintro d zs hcons hblank ys rfl
      by_contra hthird
      refine h ⟨front ++ [d], ys, ?_, hthird, ?_⟩
      · rw [heq, hcons, List.append_assoc, List.singleton_append]
      · intro e he
        obtain rfl : d = e := by simpa using he
        exact .inr hblank

theorem stripComments_eq_self {cs : List Char} (h : '/' ∉ cs) : stripComments cs = cs := by
  have hblock : ¬HasBlockComment cs := by
    rintro ⟨front, back, rfl, -⟩
    exact h (by simp)
  have hline : ¬HasLineComment cs := by
    rintro ⟨front, back, rfl, -⟩
    exact h (by simp)
  exact (shrinks_blockComment.substitute_substitute_eq_self_iff shrinks_lineComment).mpr
    ⟨passes_blockComment_iff.mpr hblock, passes_lineComment_iff.mpr hline⟩

/-- Which texts the removal of comments leaves as they are: those with no block comment and no line
comment, wherever these stand. A literal or a documentation comment around a mark is not looked
at. -/
theorem stripComments_eq_self_iff (cs : List Char) :
    stripComments cs = cs ↔ ¬HasBlockComment cs ∧ ¬HasLineComment cs := by
  rw [stripComments, shrinks_blockComment.substitute_substitute_eq_self_iff shrinks_lineComment,
    passes_blockComment_iff, passes_lineComment_iff]

/-- Where a place of a model text stands. -/
inductive Region where
  | code
  | literal
  /-- Right after a backslash inside a literal. -/
  | escaped
  | docs

/-- No `/*` and no `//` stands in the code, but for the three slashes that open documentation. -/
def marksEnclosed : Region → List Char → Bool
  | _, [] => true
  | .code, '/' :: '/' :: '/' :: cs => marksEnclosed .docs cs
  | .code, '/' :: '/' :: _ => false
  | .code, '/' :: '*' :: _ => false
  | .code, '"' :: cs => marksEnclosed .literal cs
  | .code, _ :: cs => marksEnclosed .code cs
  | .literal, '\\' :: cs => marksEnclosed .escaped cs
  | .literal, '"' :: cs => marksEnclosed .code cs
  | .literal, _ :: cs => marksEnclosed .literal cs
  | .escaped, _ :: cs => marksEnclosed .literal cs
  | .docs, '\n' :: cs => marksEnclosed .code cs
  | .docs, _ :: cs => marksEnclosed .docs cs

/-- Two shapes whose patterns hold the two ends of a block comment. -/
def globs : String :=
  "namespace blog\n@pattern(\"^/*$\")\nstring Glob\n@pattern(\"^*/$\")\nstring Tail\n"

/-- From the pattern of the first shape to that of the second everything is taken for a comment. -/
theorem stripComments_globs :
    marksEnclosed .code globs.toList = true
      ∧ stripComments globs.toList = "namespace blog\n@pattern(\"^$\")\nstring Tail\n".toList := by
  decide

end SmithyGen.Idl
