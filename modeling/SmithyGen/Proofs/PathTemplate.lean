import SmithyGen.Proofs.Search
import SmithyGen.Proofs.Text
import SmithyGen.UriTemplate

namespace SmithyGen.UriTemplate

/-- A part of a URI: a label in its braces, or a character outside all labels. -/
inductive Part where
  | char (c : Char)
  | label (text : List Char)

namespace Part

def chars : Part → List Char
  | .char c => [c]
  | .label text => '\x7b' :: (text ++ ['\x7d'])

def label? : Part → Option (List Char)
  | .char _ => none
  | .label text => some text

end Part

def partsFrom : (skip : Nat) → List Char → List Part
  | _, [] => []
  | skip + 1, _ :: cs => partsFrom skip cs
  | 0, c :: cs =>
    match UriTemplate.label? (c :: cs) with
    | some (text, rest) => .label text :: partsFrom (cs.length - rest.length) cs
    | none => .char c :: partsFrom 0 cs

def parts (uri : List Char) : List Part := partsFrom 0 uri

theorem label?_eq_some {cs text rest : List Char} (h : label? cs = some (text, rest)) :
    cs = '\x7b' :: (text ++ '\x7d' :: rest) ∧ '\x7d' ∉ text := by
  unfold label? at h
  split at h
  next cs =>
    split at h
    next c l r htake hdrop =>
      obtain ⟨rfl, rfl⟩ := Prod.mk.inj (Option.some.inj h)
      refine ⟨?_, fun hmem => ?_⟩
      · rw [← htake, ← hdrop, List.takeWhile_append_dropWhile]
      · rw [← htake] at hmem
        exact absurd (List.all_eq_true.mp (List.all_takeWhile ..) _ hmem) (by decide)
    next => cases h
  next => cases h

theorem drop_label {c : Char} {cs text rest : List Char}
    (h : label? (c :: cs) = some (text, rest)) : cs.drop (cs.length - rest.length) = rest := by
  obtain ⟨hcs, -⟩ := label?_eq_some h
  obtain ⟨-, rfl⟩ := List.cons.inj hcs
  have hlength : (text ++ '\x7d' :: rest).length - rest.length = (text ++ ['\x7d']).length := by
    simp only [List.length_append, List.length_cons, List.length_nil]
    omega
  rw [hlength, List.append_cons text '\x7d' rest, List.drop_left]

/-- The parts make up the URI. -/
theorem flatMap_chars_partsFrom (skip : Nat) (cs : List Char) :
    (partsFrom skip cs).flatMap Part.chars = cs.drop skip := by
  -- The characters skipped are those of the label that the parts before have taken up.
  induction cs generalizing skip with
  | nil => cases skip <;> rfl
  | cons c cs ih =>
    cases skip with
    | succ skip => exact ih skip
    | zero =>
      rw [partsFrom]
      split
      next text rest hlabel =>
        obtain ⟨hcs, -⟩ := label?_eq_some hlabel
        rw [List.flatMap_cons, ih, drop_label hlabel, List.drop_zero, hcs]
        simp [Part.chars]
      next => rw [List.flatMap_cons, ih, List.drop_zero, List.drop_zero]; rfl

theorem filterMap_label?_partsFrom (skip : Nat) (before : Option Char) (cs : List Char) :
    (partsFrom skip cs).filterMap Part.label?
      = Matcher.allFrom (fun _ => label?) skip before cs := by
  induction cs generalizing skip before with
  | nil => cases skip <;> rfl
  | cons c cs ih =>
    cases skip with
    | succ skip => exact ih skip (some c)
    | zero =>
      simp only [partsFrom, Matcher.allFrom]
      cases label? (c :: cs) with
      | none => exact ih 0 (some c)
      | some found => exact congrArg (found.1 :: ·) (ih _ (some c))

theorem flatMap_chars_parts (uri : List Char) : (parts uri).flatMap Part.chars = uri :=
  flatMap_chars_partsFrom 0 uri

theorem filterMap_label?_parts (uri : List Char) :
    (parts uri).filterMap Part.label? = labels uri :=
  filterMap_label?_partsFrom 0 none uri

theorem not_mem_of_label_mem_parts {uri text : List Char} (h : Part.label text ∈ parts uri) :
    '\x7d' ∉ text := by
  have hmem : text ∈ labels uri := by
    rw [← filterMap_label?_parts]
    exact List.mem_filterMap.mpr ⟨_, h, rfl⟩
  obtain ⟨before, cs, rest, -, hlabel⟩ := Matcher.exists_match_of_mem_allFrom hmem
  exact (label?_eq_some hlabel).2

def isGreedy (label : List Char) : Bool := label.getLast? == some '+'

def labelCall (label : List Char) : String :=
  "_quote(payload.pop(" ++ Text.quoted (labelName label) ++ "), greedy="
    ++ (if isGreedy label then "True" else "False") ++ ")"

theorem labelField_eq (label : List Char) :
    labelField label = '\x7b' :: ((labelCall label).toList ++ ['\x7d']) := by
  unfold labelField labelCall
  rw [isGreedy]
  cases label.getLast? == some '+' <;> simp

theorem not_mem_labelCall {label : List Char} (h : '\x7d' ∉ label) :
    '\x7d' ∉ (labelCall label).toList := by
  have hname : '\x7d' ∉ Text.quotedChars (labelName label).toList := by
    intro hmem
    rcases Code.mem_quotedChars hmem with hmem | hmark
    · rw [labelName, String.toList_ofList] at hmem
      exact h (Text.mem_dropWhileEnd hmem)
    · exact absurd hmark (by decide)
  unfold labelCall
  cases isGreedy label <;> simp [Text.quoted, hname]

theorem head?_labelCall (label : List Char) : (labelCall label).toList.head? = some '_' := by
  unfold labelCall
  simp only [String.toList_append, List.append_assoc, List.head?_append]
  rfl

def Part.written (bound : List String) : Part → List Char
  | .char c => escapeBrace c
  | .label text =>
    if bound.contains (labelName text) then labelField text
    else (Part.label text).chars.flatMap escapeBrace

theorem formatted_go_eq (bound : List String) (skip : Nat) (cs : List Char) :
    formatted.go bound skip cs = (partsFrom skip cs).flatMap (Part.written bound) := by
  induction cs generalizing skip with
  | nil => cases skip <;> rfl
  | cons c cs ih =>
    cases skip with
    | succ skip => exact ih skip
    | zero =>
      simp only [formatted.go, partsFrom]
      cases hlabel : label? (c :: cs) with
      | none => rw [List.flatMap_cons, ih, Part.written]
      | some found =>
        obtain ⟨text, rest⟩ := found
        obtain ⟨hcs, -⟩ := label?_eq_some hlabel
        obtain ⟨rfl, -⟩ := List.cons.inj hcs
        simp only [List.flatMap_cons, ih, Part.written, Part.chars]
        split_ifs <;> rfl

theorem formatted_eq (bound : List String) (uri : List Char) :
    formatted bound uri = (parts uri).flatMap (Part.written bound) :=
  formatted_go_eq bound 0 uri

/-- A piece of a formatted literal. -/
inductive Piece where
  | char (c : Char)
  | field (body : List Char)
  deriving DecidableEq

/-- Reading the text of a formatted literal from the left: a doubled brace stands for one brace, and
any other opening brace encloses a field, up to the next closing one. -/
inductive Reads : List Char → List Piece → Prop where
  | nil : Reads [] []
  | opening {cs ps} : Reads cs ps → Reads ('\x7b' :: '\x7b' :: cs) (.char '\x7b' :: ps)
  | closing {cs ps} : Reads cs ps → Reads ('\x7d' :: '\x7d' :: cs) (.char '\x7d' :: ps)
  | field {body cs ps} : body.head? ≠ some '\x7b' → '\x7d' ∉ body → Reads cs ps →
      Reads ('\x7b' :: (body ++ '\x7d' :: cs)) (.field body :: ps)
  | plain {c cs ps} : c ≠ '\x7b' → c ≠ '\x7d' → Reads cs ps → Reads (c :: cs) (.char c :: ps)

namespace Reads

theorem append {cs ds : List Char} {ps qs : List Piece} (h : Reads cs ps) (h' : Reads ds qs) :
    Reads (cs ++ ds) (ps ++ qs) := by
  induction h with
  | nil => exact h'
  | opening _ ih => exact .opening ih
  | closing _ ih => exact .closing ih
  | field hopen hclose _ ih =>
    rw [List.cons_append, List.append_assoc, List.cons_append]
    exact .field hopen hclose ih
  | plain ho hc _ ih => exact .plain ho hc ih

theorem flatMap {α : Type} {f : α → List Char} {g : α → List Piece} {as : List α}
    (h : ∀ a ∈ as, Reads (f a) (g a)) : Reads (as.flatMap f) (as.flatMap g) := by
  induction as with
  | nil => exact .nil
  | cons a as ih =>
    rw [List.flatMap_cons, List.flatMap_cons]
    exact (h a (by simp)).append (ih fun b hb => h b (List.mem_cons_of_mem a hb))

theorem field_inj {body body' cs cs' : List Char} (h : '\x7d' ∉ body) (h' : '\x7d' ∉ body')
    (heq : body ++ '\x7d' :: cs = body' ++ '\x7d' :: cs') : body = body' ∧ cs = cs' := by
  have cut : ∀ {xs ys : List Char}, '\x7d' ∉ xs →
      (xs ++ '\x7d' :: ys).takeWhile (· != '\x7d') = xs := by
    intro xs ys hxs
    refine (Text.takeWhile_dropWhile_append (fun c hc => ?_) (by simp)).1
    exact bne_iff_ne.mpr fun heq => hxs (heq ▸ hc)
  obtain rfl : body = body' := by rw [← cut h, heq, cut h']
  exact ⟨rfl, (List.cons.inj (List.append_cancel_left heq)).2⟩

theorem opening_inv {cs : List Char} {ps : List Piece}
    (h : Reads ('\x7b' :: '\x7b' :: cs) ps) : ∃ qs, ps = .char '\x7b' :: qs ∧ Reads cs qs := by
  -- The text of a field is no pattern of constructors, so the case split is on any text.
  generalize htext : '\x7b' :: '\x7b' :: cs = text at h
  cases h with
  | nil => cases htext
  | opening h =>
    obtain rfl : cs = _ := by simpa using htext
    exact ⟨_, rfl, h⟩
  | closing => simp at htext
  | @field body ds _ hopen _ _ =>
    -- A field starts with another character than the brace that would double its own.
    cases body with
    | nil => simp at htext
    | cons c body =>
      obtain rfl : '\x7b' = c := by simpa using (List.cons.inj (List.cons.inj htext).2).1
      exact absurd rfl hopen
  | plain ho => exact absurd (List.cons.inj htext).1.symm ho

theorem field_inv {body cs : List Char} {ps : List Piece} (hopen : body.head? ≠ some '\x7b')
    (hclose : '\x7d' ∉ body) (h : Reads ('\x7b' :: (body ++ '\x7d' :: cs)) ps) :
    ∃ qs, ps = .field body :: qs ∧ Reads cs qs := by
  generalize htext : '\x7b' :: (body ++ '\x7d' :: cs) = text at h
  cases h with
  | nil => cases htext
  | opening h =>
    cases body with
    | nil => simp at htext
    | cons c body =>
      obtain rfl : c = '\x7b' := by simpa using (List.cons.inj (List.cons.inj htext).2).1
      exact absurd rfl hopen
  | closing => simp at htext
  | field _ hclose' h =>
    obtain ⟨rfl, rfl⟩ := field_inj hclose hclose' (List.cons.inj htext).2
    exact ⟨_, rfl, h⟩
  | plain ho => exact absurd (List.cons.inj htext).1.symm ho

/-- A text is read in one way. -/
theorem unique {cs : List Char} {ps qs : List Piece} (h : Reads cs ps) (h' : Reads cs qs) :
    ps = qs := by
  induction h generalizing qs with
  | nil => cases h'; rfl
  | opening _ ih =>
    obtain ⟨qs, rfl, hrest⟩ := opening_inv h'
    rw [ih hrest]
  | closing _ ih =>
    cases h' with
    | closing h' => rw [ih h']
    | plain _ hc => exact absurd rfl hc
  | field hopen hclose _ ih =>
    obtain ⟨qs, rfl, hrest⟩ := field_inv hopen hclose h'
    rw [ih hrest]
  | plain ho hc _ ih =>
    cases h' with
    | opening => exact absurd rfl ho
    | closing => exact absurd rfl hc
    | field => exact absurd rfl ho
    | plain _ _ h' => rw [ih h']

end Reads

theorem reads_escapeBrace (c : Char) : Reads (escapeBrace c) [.char c] := by
  unfold escapeBrace
  by_cases ho : c = '\x7b'
  · subst ho
    exact .opening .nil
  · by_cases hc : c = '\x7d'
    · subst hc
      exact .closing .nil
    · have hne : (c == '\x7b' || c == '\x7d') = false := by simp [ho, hc]
      rw [hne, if_neg Bool.false_ne_true]
      exact .plain ho hc .nil

/-- The pieces that a part of the URI is read back as: a bound label is a field, and all else stands
for itself. -/
def Part.pieces (bound : List String) : Part → List Piece
  | .char c => [.char c]
  | .label text =>
    if bound.contains (labelName text) then [.field (labelCall text).toList]
    else (Part.label text).chars.map .char

theorem reads_written (bound : List String) {part : Part}
    (h : ∀ text, part = .label text → '\x7d' ∉ text) :
    Reads (part.written bound) (part.pieces bound) := by
  cases part with
  | char c => exact reads_escapeBrace c
  | label text =>
    rw [Part.written, Part.pieces]
    split_ifs
    · have hopen : (labelCall text).toList.head? ≠ some '\x7b' := by
        rw [head?_labelCall]
        decide
      rw [labelField_eq]
      exact .field hopen (not_mem_labelCall (h text rfl)) .nil
    · rw [List.map_eq_flatMap]
      exact .flatMap fun c _ => reads_escapeBrace c

theorem reads_formatted (bound : List String) (uri : List Char) :
    Reads (formatted bound uri) ((parts uri).flatMap (Part.pieces bound)) := by
  rw [formatted_eq]
  refine .flatMap fun part hpart => reads_written bound fun text htext => ?_
  exact not_mem_of_label_mem_parts (htext ▸ hpart)

/-- What the expression of a request path is. The URI falls into its labels and the characters
outside them. Where a label is bound, the expression is a formatted literal whose text is read in
one way: as the URI, with each bound label replaced by the call that fills it in. Else it is the URI
itself. -/
theorem pathExpression_reads (uri : String) (bound : List String) :
    (parts uri.toList).flatMap Part.chars = uri.toList
      ∧ (parts uri.toList).filterMap Part.label? = labels uri.toList
      ∧ ((∃ label ∈ labels uri.toList, labelName label ∈ bound) →
        ∃ text, pathExpression uri bound = "f" ++ Text.quoted text
          ∧ ∀ ps, Reads text.toList ps ↔ ps = (parts uri.toList).flatMap (Part.pieces bound))
      ∧ ((∀ label ∈ labels uri.toList, labelName label ∉ bound) →
        pathExpression uri bound = Text.quoted uri) := by
  refine ⟨flatMap_chars_parts _, filterMap_label?_parts _, ?_, ?_⟩
  · rintro ⟨label, hlabel, hbound⟩
    have hany : (params uri).any bound.contains = true := by
      simp only [params, List.any_map, List.any_eq_true]
      exact ⟨label, hlabel, List.contains_iff_mem.mpr hbound⟩
    refine ⟨String.ofList (formatted bound uri.toList), by rw [pathExpression, if_pos hany], ?_⟩
    rw [String.toList_ofList]
    intro ps
    constructor
    · exact fun h => h.unique (reads_formatted bound uri.toList)
    · rintro rfl
      exact reads_formatted bound uri.toList
  · intro hnone
    have hany : (params uri).any bound.contains = false := by
      simpa [params] using hnone
    rw [pathExpression, hany, if_neg Bool.false_ne_true]

/-- Neighbours after a label that is not bound, since its name starts with a brace; and a URI of
which no label is bound. -/
theorem pathExpression_reads_nested :
    (∃ text, pathExpression "/\x7b\x7ba\x7d/\x7bb+\x7d\x7bc\x7d\x7d" ["b", "c"]
        = "f" ++ Text.quoted text
      ∧ ∀ ps, Reads text.toList ps
        ↔ ps = "/\x7b\x7ba\x7d/".toList.map .char
          ++ [.field "_quote(payload.pop('b'), greedy=True)".toList,
            .field "_quote(payload.pop('c'), greedy=False)".toList, .char '\x7d'])
      ∧ pathExpression "/\x7ba\x7d" ["b", "c"] = Text.quoted "/\x7ba\x7d" :=
  ⟨(pathExpression_reads "/\x7b\x7ba\x7d/\x7bb+\x7d\x7bc\x7d\x7d" ["b", "c"]).2.2.1 (by decide),
    (pathExpression_reads "/\x7ba\x7d" ["b", "c"]).2.2.2 (by decide)⟩

end SmithyGen.UriTemplate
