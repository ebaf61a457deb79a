import SmithyGen.Proofs.Entries
import SmithyGen.Proofs.Idl.Enclosed
import SmithyGen.Proofs.Idl.Words
import SmithyGen.Proofs.Integer
import SmithyGen.Proofs.JsonString

namespace SmithyGen

/-- A literal of JSON is a string literal of a model text. -/
theorem Json.Spells.stringBody {body text : List Char} (h : Spells body text) :
    Idl.StringBody body := by
  have hhex {w x y z : Char} {n : Nat} (hn : hex4? w x y z = some n) :
      ∀ c ∈ [w, x, y, z], c ≠ '"' ∧ c ≠ '\\' := by
    have hdigit {c : Char} {d : Nat} (hc : hexValue? c = some d) : c ≠ '"' ∧ c ≠ '\\' := by
      constructor <;> rintro rfl <;> cases hc
    simp only [hex4?, Option.bind_eq_bind, Option.bind_eq_some_iff] at hn
    obtain ⟨a, ha, b, hb, c, hc, d, hd, -⟩ := hn
    simpa using ⟨hdigit ha, hdigit hb, hdigit hc, hdigit hd⟩
  have hunit {w x y z : Char} {n : Nat} {cs : List Char} (hn : hex4? w x y z = some n)
      (hcs : Idl.StringBody cs) : Idl.StringBody ('\\' :: 'u' :: w :: x :: y :: z :: cs) := by
    have hdigits := hhex hn
    simp only [List.mem_cons, List.not_mem_nil, or_false, forall_eq_or_imp, forall_eq] at hdigits
    obtain ⟨hw, hx, hy, hz⟩ := hdigits
    exact .escape (by decide)
      (.plain hw.1 hw.2 (.plain hx.1 hx.2 (.plain hy.1 hy.2 (.plain hz.1 hz.2 hcs))))
  induction h with
  | nil => exact .nil
  | plain hquote hslash hcontrol h ih => exact .plain hquote hslash ih
  | short hc h ih =>
    refine .escape ?_ ih
    rintro rfl
    cases hc
  | unit hc h ih => exact hunit hc ih
  | pair hhi hhigh hlo hlow h ih => exact hunit hhi (hunit hlo ih)

namespace Idl

/-- A text, and the literal that it is written with. -/
structure Quoted where
  body : List Char
  text : List Char
  spells : Json.Spells body text

/-- What a key may have for a value. -/
inductive Scalar where
  | text (q : Quoted)
  | int (n : Int) (short : (Nat.toDigits 10 n.natAbs).length ≤ Number.digitLimit)
  | bool (b : Bool)
  | null

structure Pair where
  key : List Char
  value : Scalar
  ne_nil : key ≠ []
  isNameChar_key : ∀ c ∈ key, isNameChar c = true

/-- What a trait is applied to: nothing, a text, or pairs with keys of their own. -/
inductive Arguments where
  | none
  | text (q : Quoted)
  | pairs (items : List Pair) (ne_nil : items ≠ []) (nodup : (items.map (·.key)).Nodup)

structure Use where
  name : List Char
  arguments : Arguments
  gap : List Char
  ne_nil : name ≠ []
  isIdChar_name : ∀ c ∈ name, isIdChar c = true
  isBlank_gap : ∀ c ∈ gap, Text.isBlank c = true

def Use.id (u : Use) : String := traitId (String.ofList u.name)

/-- Traits with ids of their own. -/
structure Traits where
  uses : List Use
  nodup : (uses.map Use.id).Nodup

section Layout

def Quoted.chars (q : Quoted) : List Char := '"' :: (q.body ++ ['"'])

def Scalar.chars : Scalar → List Char
  | .text q => q.chars
  | .int n _ => (toString n).toList
  | .bool b => (toString b).toList
  | .null => "null".toList

def Pair.chars (p : Pair) : List Char := p.key ++ ':' :: ' ' :: p.value.chars

def joinPairs (items : List Pair) : List Char := Text.joinWith [',', ' '] (items.map Pair.chars)

def Arguments.inner? : Arguments → Option (List Char)
  | .none => Option.none
  | .text q => some q.chars
  | .pairs items _ _ => some (joinPairs items)

def Arguments.chars (a : Arguments) : List Char :=
  a.inner?.elim [] fun inner => '(' :: (inner ++ [')'])

def Use.head (u : Use) : List Char := '@' :: (u.name ++ u.arguments.chars)

def Use.chars (u : Use) : List Char := u.head ++ u.gap

def Traits.chars (t : Traits) : List Char := t.uses.flatMap Use.chars

end Layout

section Values

def Quoted.value (q : Quoted) : Value := .str (String.ofList q.text)

def Scalar.value : Scalar → Value
  | .text q => q.value
  | .int n _ => .int n
  | .bool b => .bool b
  | .null => .null

def Pair.entry (p : Pair) : String × Value := (String.ofList p.key, p.value.value)

def Arguments.value : Arguments → Value
  | .none => .map []
  | .text q => q.value
  | .pairs items _ _ => .map (items.map Pair.entry)

def Traits.entries (t : Traits) : Entries Value := t.uses.map fun u => (u.id, u.arguments.value)

end Values

/-- The traits found from the left anywhere in a text. -/
def traitsIn (cs : List Char) : Entries Value :=
  Entries.ofList ((Matcher.all (fun _ => application?) cs).map fun a => (traitId a.name, a.value))

section Characters

def wideBlanks : List Nat :=
  [0x85, 0xA0, 0x1680, 0x2028, 0x2029, 0x202F, 0x205F, 0x3000] ++ List.range' 0x2000 11

theorem inRanges_wideBlanks : ∀ n ∈ wideBlanks, Text.inRanges Text.wordRanges n = false := by
  decide +kernel

variable {c : Char}

theorem toNat_of_isBlank (h : Text.isBlank c = true) : c.toNat ≤ 32 ∨ c.toNat ∈ wideBlanks := by
  simp only [Text.isBlank, Bool.or_eq_true, Bool.and_eq_true, beq_iff_eq, decide_eq_true_eq] at h
  simp only [wideBlanks, List.mem_append, List.mem_range'_1, List.mem_cons, List.not_mem_nil,
    or_false]
  omega

theorem isWord_of_isBlank (h : Text.isBlank c = true) : Text.isWord c = false := by
  rcases toNat_of_isBlank h with hc | hc
  · by_contra hword
    have hascii : c.toNat < 128 := by omega
    rw [Bool.not_eq_false, Text.isWord, if_pos hascii] at hword
    have := toNat_of_isNameChar hword
    omega
  · have hwide : ∀ n ∈ wideBlanks, 128 ≤ n := by decide
    rw [Text.isWord, if_neg (Nat.not_lt.mpr (hwide _ hc)), inRanges_wideBlanks _ hc]

theorem isIdChar_of_isBlank (h : Text.isBlank c = true) : isIdChar c = false := by
  have hsign (d : Char) (hd : Text.isBlank d = false) : c ≠ d := by
    rintro rfl
    rw [h] at hd
    cases hd
  simp [isIdChar, isWord_of_isBlank h, hsign '.' (by decide), hsign '#' (by decide)]

end Characters

section Scalars

/-- A character of a value that is no text: it ends no value and starts no literal. -/
def isBareChar (c : Char) : Bool := !(c == ',' || Text.isBlank c || c == '"' || c == '(' || c == ')')

theorem of_isBareChar {c : Char} (h : isBareChar c = true) :
    c ≠ ',' ∧ Text.isBlank c = false ∧ c ≠ '"' ∧ c ≠ '(' ∧ c ≠ ')' := by
  simp only [isBareChar, Bool.not_eq_true', Bool.or_eq_false_iff, beq_eq_false_iff_ne] at h
  exact ⟨h.1.1.1.1, h.1.1.1.2, h.1.1.2, h.1.2, h.2⟩

theorem isBareChar_of_mem_toString {n : Int} {c : Char} (h : c ∈ (toString n).toList) :
    isBareChar c = true := by
  have hrange := Number.toNat_of_mem_toString n h
  have hne {d : Char} (hd : ¬(45 ≤ d.toNat ∧ d.toNat < 58)) : c ≠ d := by
    rintro rfl
    exact hd hrange
  have hblank : Text.isBlank c = false := by
    simp only [Text.isBlank, Bool.or_eq_false_iff, Bool.and_eq_false_iff, beq_eq_false_iff_ne,
      decide_eq_false_iff_not]
    omega
  simp [isBareChar, hblank, hne (d := ',') (by decide), hne (d := '"') (by decide),
    hne (d := '(') (by decide), hne (d := ')') (by decide)]

theorem Quoted.unquote_chars (q : Quoted) : unquote q.chars = q.value := by
  rw [unquote, chars, q.spells.decode_literal]
  rfl

theorem Quoted.literal?_chars (q : Quoted) (rest : List Char) :
    literal? (q.chars ++ rest) = some (q.chars, rest) := by
  have hliteral := q.spells.stringBody.literal?_append rest
  have hassoc : q.chars ++ rest = '"' :: (q.body ++ '"' :: rest) := by simp [chars]
  rw [hassoc, hliteral, chars]

theorem Quoted.eq_of_mem_getLast? {q : Quoted} {c : Char} (h : c ∈ q.chars.getLast?) : '"' = c := by
  have hlast : q.chars.getLast? = some '"' := by simp [chars, List.getLast?_cons]
  exact Option.some.inj (hlast.symm.trans h)

theorem Quoted.trim_chars (q : Quoted) : Text.trim q.chars = q.chars := by
  refine Text.trim_of_ends (fun c hc => ?_) (fun c hc => ?_)
  · obtain rfl := Option.some.inj hc
    decide
  · obtain rfl := Quoted.eq_of_mem_getLast? hc
    decide

theorem Scalar.bare_of_ne_text {s : Scalar} (h : ∀ q, s ≠ .text q) :
    s.chars ≠ [] ∧ ∀ c ∈ s.chars, isBareChar c = true := by
  cases s with
  | text q => exact absurd rfl (h q)
  | int n short =>
    refine ⟨fun hnil => ?_, fun c hc => isBareChar_of_mem_toString hc⟩
    have hchars := Number.toList_toString_cases n
    rw [show (toString n).toList = [] from hnil] at hchars
    simp [Nat.toDigits_ne_nil] at hchars
  | bool b =>
    cases b <;> exact ⟨by decide, List.all_eq_true.mp (by rfl)⟩
  | null => exact ⟨by decide, List.all_eq_true.mp (by rfl)⟩

/-- Characters that go on without end are neither trimmed nor a literal. -/
theorem trim_of_bare {cs : List Char} (h : ∀ c ∈ cs, isBareChar c = true) :
    Text.trim cs = cs ∧ (cs.head? == some '"') = false := by
  refine ⟨Text.trim_of_ends (fun c hc => ?_) (fun c hc => ?_), ?_⟩
  · exact (of_isBareChar (h c (List.mem_of_mem_head? hc))).2.1
  · exact (of_isBareChar (h c (List.mem_of_mem_getLast? hc))).2.1
  · cases cs with
    | nil => rfl
    | cons c cs => simpa using (of_isBareChar (h c (by simp))).2.2.1

theorem scalar_toString {n : Int} (h : (Nat.toDigits 10 n.natAbs).length ≤ Number.digitLimit) :
    scalar (toString n).toList = .int n := by
  obtain ⟨htrim, hquote⟩ := trim_of_bare fun c hc => isBareChar_of_mem_toString (n := n) hc
  have hword (w : String) (hw : w.toList.any (fun c => decide (58 ≤ c.toNat)) = true) :
      (toString n == w) = false := by
    obtain ⟨c, hc, hlow⟩ := List.any_eq_true.mp hw
    refine beq_eq_false_iff_ne.mpr fun heq => ?_
    have hlow := of_decide_eq_true hlow
    have := Number.toNat_of_mem_toString n (heq ▸ hc)
    omega
  rw [scalar, htrim]
  simp only [hquote, String.ofList_toList, hword "true" (by rfl), hword "false" (by rfl),
    hword "null" (by rfl), Number.int?_toString n h, Bool.false_eq_true, if_false]

theorem scalar_chars (s : Scalar) : scalar s.chars = s.value := by
  cases s with
  | text q =>
    have hquote : (q.chars.head? == some '"') = true := by simp [Quoted.chars]
    rw [Scalar.chars, scalar, q.trim_chars]
    simp only [hquote, if_true, q.unquote_chars]
    rfl
  | int n short => exact scalar_toString short
  | bool b => cases b <;> rfl
  | null => rfl

end Scalars

section Pairs

theorem pair?_of_not_isWord {c : Char} (h : Text.isWord c = false) (cs : List Char) :
    pair? (c :: cs) = none := by
  have hkey : (c :: cs).takeWhile Text.isWord = [] := by simp [h]
  rw [pair?, hkey]
  split <;> rfl

/-- The text of a value and what follows it: a literal, or characters up to a comma or blank. -/
def valueText? (cs : List Char) : Option (List Char × List Char) :=
  let bare := cs.takeWhile fun c => !(c == ',' || Text.isBlank c)
  (literal? cs).or (if bare.isEmpty then none else some (bare, cs.drop bare.length))

theorem pair?_key {key cs : List Char} (hne : key ≠ []) (hkey : ∀ c ∈ key, isNameChar c = true)
    (hcs : ∀ c ∈ cs.head?, Text.isBlank c = false) :
    pair? (key ++ ':' :: ' ' :: cs)
      = (valueText? cs).map fun (text, rest) => ((String.ofList key, scalar text), rest) := by
  obtain ⟨htake, hdrop⟩ : (key ++ ':' :: ' ' :: cs).takeWhile Text.isWord = key
      ∧ (key ++ ':' :: ' ' :: cs).dropWhile Text.isWord = ':' :: ' ' :: cs :=
    Text.takeWhile_dropWhile_append (fun c hc => isWord_of_isNameChar (hkey c hc))
      (by simp; decide)
  have hcolon : skipBlank (':' :: ' ' :: cs) = ':' :: ' ' :: cs := rfl
  have hempty : key.isEmpty = false := by simpa using hne
  simp only [pair?, htake, hdrop, hcolon, skipBlank_space hcs, hempty, Bool.false_eq_true, if_false,
    valueText?]
  cases literal? cs with
  | some p => rfl
  | none => rw [Option.none_or, apply_ite (Option.map _)]; rfl

theorem Scalar.chars_ne_nil (s : Scalar) : s.chars ≠ [] := by
  by_cases htext : ∃ q, s = .text q
  · obtain ⟨q, rfl⟩ := htext
    exact List.cons_ne_nil _ _
  · exact (bare_of_ne_text fun q hq => htext ⟨q, hq⟩).1

theorem Scalar.isBlank_head (s : Scalar) (rest : List Char) :
    ∀ c ∈ (s.chars ++ rest).head?, Text.isBlank c = false := by
  intro c hc
  by_cases htext : ∃ q, s = .text q
  · obtain ⟨q, rfl⟩ := htext
    obtain rfl := Option.some.inj hc
    decide
  · obtain ⟨hne, hbare⟩ := bare_of_ne_text fun q hq => htext ⟨q, hq⟩
    rw [List.head?_append_of_ne_nil _ hne] at hc
    exact (of_isBareChar (hbare c (List.mem_of_mem_head? hc))).2.1

theorem Scalar.isBlank_last (s : Scalar) : ∀ c ∈ s.chars.getLast?, Text.isBlank c = false := by
  intro c hc
  by_cases htext : ∃ q, s = .text q
  · obtain ⟨q, rfl⟩ := htext
    obtain rfl := Quoted.eq_of_mem_getLast? hc
    decide
  · obtain ⟨-, hbare⟩ := bare_of_ne_text fun q hq => htext ⟨q, hq⟩
    exact (of_isBareChar (hbare c (List.mem_of_mem_getLast? hc))).2.1

theorem valueText?_chars (s : Scalar) {rest : List Char} (hrest : ∀ c ∈ rest.head?, c = ',') :
    valueText? (s.chars ++ rest) = some (s.chars, rest) := by
  by_cases htext : ∃ q, s = .text q
  · obtain ⟨q, rfl⟩ := htext
    rw [Scalar.chars, valueText?, q.literal?_chars]
    rfl
  · obtain ⟨hne, hbare⟩ := Scalar.bare_of_ne_text fun q hq => htext ⟨q, hq⟩
    -- A value that is no literal goes on to the next comma or blank.
    have hgoes : ∀ c ∈ s.chars, (!(c == ',' || Text.isBlank c)) = true := by
      intro c hc
      obtain ⟨hcomma, hblank, -⟩ := of_isBareChar (hbare c hc)
      simp [hcomma, hblank]
    have hstop : ∀ c ∈ rest.head?, (!(c == ',' || Text.isBlank c)) = false := fun c hc => by
      rw [hrest c hc]
      rfl
    obtain ⟨htake, -⟩ := Text.takeWhile_dropWhile_append hgoes hstop
    have hliteral : literal? (s.chars ++ rest) = none := by
      cases hs : s.chars with
      | nil => exact absurd hs hne
      | cons c cs =>
        have hquote := (of_isBareChar (hbare c (by simp [hs]))).2.2.1
        simp [literal?, hquote]
    have hempty : s.chars.isEmpty = false := by simpa using hne
    simp only [valueText?, htake, hliteral, List.drop_left, hempty, Option.none_or,
      Bool.false_eq_true, if_false]

theorem pair?_chars (p : Pair) {rest : List Char} (hrest : ∀ c ∈ rest.head?, c = ',') :
    pair? (p.chars ++ rest) = some (p.entry, rest) := by
  have hassoc : p.chars ++ rest = p.key ++ ':' :: ' ' :: (p.value.chars ++ rest) := by
    simp [Pair.chars]
  rw [hassoc, pair?_key p.ne_nil p.isNameChar_key (p.value.isBlank_head rest),
    valueText?_chars p.value hrest]
  simp only [Option.map_some, scalar_chars]
  rfl

theorem Pair.chars_ne_nil (p : Pair) : p.chars ≠ [] := by simp [chars]

/-- Pairs are found one after another, the commas between them passed over. -/
theorem allFrom_pairs (before : Option Char) (items : List Pair) :
    Matcher.allFrom (fun _ => pair?) 0 before (joinPairs items) = items.map Pair.entry := by
  induction items generalizing before with
  | nil => rfl
  | cons p items ih =>
    cases items with
    | nil =>
      have hmatch : pair? (p.chars ++ []) = some (p.entry, []) := pair?_chars p (by simp)
      have hjoin : joinPairs [p] = p.chars ++ [] := by simp [joinPairs, Text.joinWith]
      rw [hjoin, Matcher.allFrom_of_match p.chars_ne_nil hmatch]
      rfl
    | cons q items =>
      have hmatch : pair? (p.chars ++ ([',', ' '] ++ joinPairs (q :: items)))
          = some (p.entry, [',', ' '] ++ joinPairs (q :: items)) := pair?_chars p (by simp)
      have hsep : ∀ c ∈ [',', ' '], Text.isWord c = false := by
        intro c hc
        rcases List.mem_pair.mp hc with rfl | rfl <;> decide
      have hpass := Matcher.passes_of_forall (m := fun _ => pair?) fun _ c hc _ =>
        pair?_of_not_isWord (hsep c hc) _
      have hjoin : joinPairs (p :: q :: items)
          = p.chars ++ ([',', ' '] ++ joinPairs (q :: items)) := by
        rw [joinPairs, List.map_cons, List.map_cons, Text.joinWith_cons_cons, List.append_assoc]
        rfl
      rw [hjoin, Matcher.allFrom_of_match p.chars_ne_nil hmatch,
        Matcher.allFrom_of_passes (hpass _ _), ih]
      rfl

variable {items : List Pair}

theorem ne_nil_of_mem_map_chars : ∀ part ∈ items.map Pair.chars, part ≠ [] := by
  intro part hpart
  obtain ⟨p, -, rfl⟩ := List.mem_map.mp hpart
  exact p.chars_ne_nil

theorem joinPairs_ne_nil (h : items ≠ []) : joinPairs items ≠ [] :=
  Text.joinWith_ne_nil (by simpa using h) ne_nil_of_mem_map_chars

theorem isNameChar_head_joinPairs : ∀ c ∈ (joinPairs items).head?, isNameChar c = true := by
  intro c hc
  obtain ⟨part, hpart, hc⟩ := Text.exists_head?_of_joinWith ne_nil_of_mem_map_chars hc
  obtain ⟨p, -, rfl⟩ := List.mem_map.mp hpart
  rw [Pair.chars, List.head?_append_of_ne_nil _ p.ne_nil] at hc
  exact p.isNameChar_key c (List.mem_of_head? hc)

theorem isBlank_last_joinPairs : ∀ c ∈ (joinPairs items).getLast?, Text.isBlank c = false := by
  intro c hc
  obtain ⟨part, hpart, hc⟩ := Text.exists_getLast?_of_joinWith ne_nil_of_mem_map_chars hc
  obtain ⟨p, -, rfl⟩ := List.mem_map.mp hpart
  have hchars : p.chars = (p.key ++ [':', ' ']) ++ p.value.chars := by simp [Pair.chars]
  rw [hchars, List.getLast?_append_of_ne_nil _ p.value.chars_ne_nil] at hc
  exact p.value.isBlank_last c hc

theorem trim_joinPairs : Text.trim (joinPairs items) = joinPairs items :=
  Text.trim_of_ends
    (fun c hc => isBlank_of_isRefChar (isRefChar_of_isNameChar (isNameChar_head_joinPairs c hc)))
    isBlank_last_joinPairs

theorem literal?_joinPairs : literal? (joinPairs items) = none := by
  cases hcs : joinPairs items with
  | nil => rfl
  | cons c cs =>
    have hquote : c ≠ '"' := by
      rintro rfl
      exact absurd (isNameChar_head_joinPairs '"' (by rw [hcs]; rfl)) (by decide)
    simp [literal?, hquote]

end Pairs

section Arguments

theorem argumentValue_inner {a : Arguments} {inner : List Char} (h : a.inner? = some inner) :
    argumentValue inner = a.value := by
  cases a with
  | none => cases h
  | text q =>
    obtain rfl : q.chars = inner := Option.some.inj h
    have hliteral := q.literal?_chars []
    rw [List.append_nil] at hliteral
    have hempty : q.chars.isEmpty = false := rfl
    simp only [argumentValue, q.trim_chars, hempty, hliteral, Bool.false_eq_true, if_false,
      q.unquote_chars]
    rfl
  | pairs items hne nodup =>
    obtain rfl : joinPairs items = inner := Option.some.inj h
    have hempty : (joinPairs items).isEmpty = false := by simpa using joinPairs_ne_nil hne
    have hfound : Matcher.all (fun _ => pair?) (joinPairs items) = items.map Pair.entry :=
      allFrom_pairs none items
    have hkeys : ((items.map Pair.entry).map (·.1)).Nodup := by
      have hinjective : Function.Injective String.ofList := fun _ _ => String.ofList_injective
      have hmap : (items.map Pair.entry).map (·.1) = (items.map (·.key)).map String.ofList := by
        simp [Pair.entry, Function.comp_def]
      rw [hmap]
      exact nodup.map hinjective
    simp only [argumentValue, trim_joinPairs, hempty, literal?_joinPairs, hfound,
      Bool.false_eq_true, if_false]
    cases items with
    | nil => exact absurd rfl hne
    | cons p items => exact congrArg Value.map (Entries.ofList_of_nodup hkeys)

/-- Parentheses in literals do not close the arguments. -/
theorem arguments?_inner {a : Arguments} {inner : List Char} (h : a.inner? = some inner)
    (rest : List Char) : arguments? (inner ++ ')' :: rest) = some (inner, rest) := by
  have hquoted (q : Quoted) : Continues ')' (· == '(') q.chars :=
    .literal (by decide) rfl q.spells.stringBody
  have hplain {cs : List Char} (hcs : ∀ c ∈ cs, c ≠ '"' ∧ c ≠ '(' ∧ c ≠ ')') :
      Continues ')' (· == '(') cs :=
    .of_forall fun c hc => ⟨(hcs c hc).1, (hcs c hc).2.2, beq_eq_false_iff_ne.mpr (hcs c hc).2.1⟩
  have hscalar (s : Scalar) : Continues ')' (· == '(') s.chars := by
    by_cases htext : ∃ q, s = .text q
    · obtain ⟨q, rfl⟩ := htext
      exact hquoted q
    · obtain ⟨-, hbare⟩ := Scalar.bare_of_ne_text fun q hq => htext ⟨q, hq⟩
      exact hplain fun c hc => (of_isBareChar (hbare c hc)).2.2
  have hpair (p : Pair) : Continues ')' (· == '(') p.chars := by
    have hkey : ∀ c ∈ p.key, c ≠ '"' ∧ c ≠ '(' ∧ c ≠ ')' := by
      intro c hc
      have hname := p.isNameChar_key c hc
      refine ⟨?_, ?_, ?_⟩ <;> rintro rfl <;> cases hname
    have hsign : Continues ')' (· == '(') [':', ' '] := hplain (by simp)
    have hchars : p.chars = p.key ++ ([':', ' '] ++ p.value.chars) := rfl
    rw [hchars]
    exact (hplain hkey).append (hsign.append (hscalar p.value))
  refine Continues.enclosedFrom_close ?_ rest
  cases a with
  | none => cases h
  | text q =>
    obtain rfl : q.chars = inner := Option.some.inj h
    exact hquoted q
  | pairs items hne nodup =>
    obtain rfl : joinPairs items = inner := Option.some.inj h
    refine .joinWith (hplain (by simp)) fun part hpart => ?_
    obtain ⟨p, -, rfl⟩ := List.mem_map.mp hpart
    exact hpair p

end Arguments

section Uses

def Use.application (u : Use) : Application := ⟨String.ofList u.name, u.arguments.inner?⟩

theorem Use.value_application (u : Use) :
    (traitId u.application.name, u.application.value) = (u.id, u.arguments.value) := by
  refine congrArg (Prod.mk u.id) ?_
  cases hinner : u.arguments.inner? with
  | none =>
    have hnone : u.arguments.value = .map [] := by
      cases ha : u.arguments with
      | none => rfl
      | text q => rw [ha] at hinner; cases hinner
      | pairs items hne nodup => rw [ha] at hinner; cases hinner
    rw [hnone, Application.value, application, hinner]
    rfl
  | some inner =>
    rw [Application.value, application, hinner]
    exact argumentValue_inner hinner

theorem application?_head (u : Use) {rest : List Char}
    (hrest : ∀ c ∈ rest.head?, isIdChar c = false ∧ c ≠ '(') :
    application? (u.head ++ rest) = some (u.application, rest) := by
  have hempty : u.name.isEmpty = false := by simpa using u.ne_nil
  cases hinner : u.arguments.inner? with
  | none =>
    have hhead : u.head ++ rest = '@' :: (u.name ++ rest) := by
      simp [Use.head, Arguments.chars, hinner]
    obtain ⟨htake, hdrop⟩ := Text.takeWhile_dropWhile_append u.isIdChar_name
      fun c hc => (hrest c hc).1
    rw [hhead, application?, htake, hdrop, Use.application, hinner]
    simp only [hempty, Bool.false_eq_true, if_false]
    cases rest with
    | nil => rfl
    | cons c rest =>
      have hparen := (hrest c rfl).2
      simp [hparen]
  | some inner =>
    have hhead : u.head ++ rest = '@' :: (u.name ++ '(' :: (inner ++ ')' :: rest)) := by
      simp [Use.head, Arguments.chars, hinner]
    obtain ⟨htake, hdrop⟩ : (u.name ++ '(' :: (inner ++ ')' :: rest)).takeWhile isIdChar = u.name
        ∧ (u.name ++ '(' :: (inner ++ ')' :: rest)).dropWhile isIdChar
          = '(' :: (inner ++ ')' :: rest) :=
      Text.takeWhile_dropWhile_append u.isIdChar_name (by simp; decide)
    rw [hhead, application?, htake, hdrop, Use.application, hinner]
    simp only [hempty, Bool.false_eq_true, if_false, arguments?_inner hinner]

variable (us : List Use)

theorem head_flatMap_chars : ∀ c ∈ (us.flatMap Use.chars).head?, c = '@' := by
  intro c hc
  cases us with
  | nil => cases hc
  | cons u us => exact (Option.some.inj hc).symm

theorem head_gap_append (u : Use) :
    ∀ c ∈ (u.gap ++ us.flatMap Use.chars).head?, isIdChar c = false ∧ c ≠ '(' := by
  intro c hc
  cases hgap : u.gap with
  | nil =>
    rw [hgap, List.nil_append] at hc
    rw [head_flatMap_chars us c hc]
    decide
  | cons d gap =>
    rw [hgap] at hc
    obtain rfl : d = c := Option.some.inj hc
    have hblank := u.isBlank_gap d (by simp [hgap])
    refine ⟨isIdChar_of_isBlank hblank, ?_⟩
    rintro rfl
    cases hblank

theorem skipBlank_gap (u : Use) :
    skipBlank (u.gap ++ us.flatMap Use.chars) = us.flatMap Use.chars := by
  refine (Text.takeWhile_dropWhile_append u.isBlank_gap fun c hc => ?_).2
  rw [head_flatMap_chars us c hc]
  decide

theorem applications_chars :
    applications (us.flatMap Use.chars) = (us.map Use.application, []) := by
  induction us with
  | nil => rfl
  | cons u us ih =>
    have hne : u.chars ≠ [] := List.cons_ne_nil _ _
    -- The blanks after a use are passed over with it, so that the next one starts with its sign.
    have hassoc : u.chars ++ us.flatMap Use.chars = u.head ++ (u.gap ++ us.flatMap Use.chars) := by
      rw [Use.chars, List.append_assoc]
    have happlications (cs : List Char) : applications cs
        = Matcher.run (fun cs => (application? cs).map fun p => (p.1, skipBlank p.2)) cs := rfl
    have hmatch : (application? (u.chars ++ us.flatMap Use.chars)).map
          (fun p => (p.1, skipBlank p.2))
        = some (u.application, us.flatMap Use.chars) := by
      rw [hassoc, application?_head u (head_gap_append us u)]
      simp only [Option.map_some, skipBlank_gap]
    rw [happlications] at ih ⊢
    rw [List.flatMap_cons, Matcher.run_append hne hmatch, ih]
    rfl

theorem allFrom_chars (before : Option Char) :
    Matcher.allFrom (fun _ => application?) 0 before (us.flatMap Use.chars)
      = us.map Use.application := by
  induction us generalizing before with
  | nil => rfl
  | cons u us ih =>
    have hne : u.head ≠ [] := List.cons_ne_nil _ _
    have hpass : ∀ before ys, Matcher.Passes (fun _ => application?) before u.gap ys :=
      Matcher.passes_of_forall fun _ c hc rest => by
        have hblank := u.isBlank_gap c hc
        have hat : c ≠ '@' := by
          rintro rfl
          cases hblank
        simp [application?, hat]
    rw [List.flatMap_cons, Use.chars, List.append_assoc,
      Matcher.allFrom_of_match (m := fun _ => application?) hne
        (application?_head u (head_gap_append us u)),
      Matcher.allFrom_of_passes (hpass _ _), ih]
    rfl

end Uses

theorem Traits.ofList_applications (t : Traits) :
    Entries.ofList ((t.uses.map Use.application).map fun a => (traitId a.name, a.value))
      = t.entries := by
  have hpairs : (t.uses.map Use.application).map (fun a => (traitId a.name, a.value)) = t.entries := by
    rw [List.map_map]
    exact List.map_congr_left fun u _ => u.value_application
  have hkeys : (t.entries.map (·.1)).Nodup := by
    have hids : t.entries.map (·.1) = t.uses.map Use.id := by simp [Traits.entries]
    exact hids ▸ t.nodup
  rw [hpairs, Entries.ofList_of_nodup hkeys]

/-- Traits are read from their text, in order and with the values that were written: from the text
as a whole, and as what stands before a declaration or a member. -/
theorem traits_round_trip (t : Traits) :
    traitsIn t.chars = t.entries
      ∧ (applications t.chars).2 = []
      ∧ traitEntries [] (applications t.chars).1 = t.entries := by
  have hall : Matcher.all (fun _ => application?) t.chars = t.uses.map Use.application :=
    allFrom_chars t.uses none
  have hdocs : documentation? [] = none := rfl
  rw [traitsIn, hall, Traits.chars, applications_chars, traitEntries, hdocs]
  exact ⟨t.ofList_applications, rfl, t.ofList_applications⟩

end Idl

end SmithyGen
