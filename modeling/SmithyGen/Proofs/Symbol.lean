import Mathlib.Data.List.Chain
import Mathlib.Data.List.Find
import SmithyGen.Code.Token
import SmithyGen.Proofs.Integer
import SmithyGen.Proofs.Literal
import SmithyGen.Scan

namespace SmithyGen

theorem Matcher.runFrom_append {α : Type} (m : List Char → Option (α × List Char))
    (x rest : List Char) : runFrom m x.length (x ++ rest) = run m rest := by
  induction x with
  | nil => rfl
  | cons c x ih => exact ih

theorem Matcher.run_append {α : Type} {m : List Char → Option (α × List Char)} {a : α}
    {x rest : List Char} (hx : x ≠ []) (h : m (x ++ rest) = some (a, rest)) :
    run m (x ++ rest) = (a :: (run m rest).1, (run m rest).2) := by
  cases x with
  | nil => exact absurd rfl hx
  | cons c x =>
    have hl : (x ++ rest).length - rest.length = x.length := by
      rw [List.length_append]
      omega
    rw [List.cons_append] at h ⊢
    simp only [run, runFrom, h, hl, runFrom_append]

namespace Code

/-- A formatted text is what stands between its quotes, with its fields. A stray character ends the
reading of a line. -/
inductive Symbol where
  | word (s : String)
  | number (n : Int)
  | text (s : String)
  | formatted (s : String)
  | sign (s : String)
  | blank
  | stray
deriving DecidableEq, Repr

def textSymbol? (make : String → Symbol) (cs : List Char) : Option (Symbol × List Char) :=
  (literalText? cs).map fun (text, rest) => (make (String.ofList text), rest)

def natural? (cs : List Char) : Option (Nat × List Char) :=
  let rest := cs.dropWhile Char.isDigit
  if rest.head?.any fun c => isWordChar c || c == '.' then none
  else some (Nat.ofDigitChars 10 (cs.takeWhile Char.isDigit) 0, rest)

/-- A word, or a formatted text. Other marks before a quote are not known. -/
def wordSymbol? (cs : List Char) : Option (Symbol × List Char) :=
  let rest := cs.dropWhile isWordChar
  if rest.head?.any isQuote then
    if cs.takeWhile isWordChar == ['f'] then textSymbol? .formatted rest else none
  else some (.word (String.ofList (cs.takeWhile isWordChar)), rest)

/-- The symbol that starts a text. A minus right before a digit is part of a number. -/
def symbol? : List Char → Option (Symbol × List Char)
  | [] => none
  | c :: cs =>
    if c == ' ' then some (.blank, cs)
    else if isQuote c then textSymbol? .text (c :: cs)
    else if c.isDigit then (natural? (c :: cs)).map fun (n, rest) => (.number n, rest)
    else if c == '-' && cs.head?.any Char.isDigit then
      (natural? cs).map fun (n, rest) => (.number (-n), rest)
    else if isWordChar c then wordSymbol? (c :: cs)
    else (sign? (c :: cs)).map fun (s, rest) => (.sign s, rest)

/-- The symbols of a line, blanks left out. -/
def symbols (cs : List Char) : List Symbol :=
  let (ss, left) := Matcher.run symbol? cs
  ss.filter (· != .blank) ++ if left.isEmpty then [] else [.stray]

namespace Symbol

def chars : Symbol → List Char
  | .word s | .sign s => s.toList
  | .number n => (toString n).toList
  | .text s => Text.quotedChars s.toList
  | .formatted s => 'f' :: Text.quotedChars s.toList
  | .blank => [' ']
  | .stray => []

def joins (s : String) (c : Char) : Bool :=
  longSigns.any fun l => (s.toList ++ [c]).isPrefixOf l.toList

/-- Whether a symbol ends where a character follows it. -/
def endsBefore : Symbol → Char → Bool
  | .word _, c => !isWordChar c && !isQuote c
  | .number _, c => !isWordChar c && c != '.'
  | .text _, c | .formatted _, c => !isQuote c
  | .sign s, c => !joins s c && !(s == "-" && c.isDigit)
  | .blank, _ | .stray, _ => true

/-- A word is not empty and starts with no digit, a sign is one sign. -/
def isSound : Symbol → Bool
  | .word s => s.toList.head?.any (!·.isDigit) && s.toList.all isWordChar
  | .sign s => sign? s.toList == some (s, [])
  | .stray => false
  | _ => true

/-- Whether two symbols may stand side by side: a blank or a sign is between most of them. -/
def apart : Symbol → Symbol → Bool
  | .blank, _ | _, .blank => true
  | .sign s, .sign t => t.toList.head?.all (!joins s ·)
  | .sign s, .number _ => s != "-"
  | .sign _, _ => true
  | .number _, .sign t => t.toList.head? != some '.'
  | .word _, .sign _ | .text _, .sign _ | .formatted _, .sign _ => true
  | _, _ => false

end Symbol

/-- The characters of symbols in a row. -/
def spell (ss : List Symbol) : List Char := ss.flatMap Symbol.chars

/-- Sound symbols that may stand side by side. -/
structure Spelled (ss : List Symbol) : Prop where
  sound : ∀ s ∈ ss, s.isSound = true
  isChain : ss.IsChain (fun s t => s.apart t = true)

namespace Symbol

theorem longSigns_chars : longSigns.all (fun l => l.toList.all fun c =>
    !isWordChar c && !isQuote c && c != ' ') = true := by decide

theorem joins_eq_false {c : Char} (h : isWordChar c || isQuote c || c == ' ') (s : String) :
    joins s c = false := by
  rw [joins, List.any_eq_false]
  intro l hl hp
  have hc : c ∈ l.toList := (List.isPrefixOf_iff_prefix.mp hp).subset (by simp)
  have hsign := List.all_eq_true.mp (List.all_eq_true.mp longSigns_chars l hl) c hc
  simp only [Bool.and_eq_true, Bool.not_eq_true', bne_iff_ne, ne_eq] at hsign
  simp [hsign] at h

theorem joins_minus {s : String} (h : s ≠ "") : joins s '-' = false := by
  have hlong : ∀ l ∈ longSigns, '-' ∉ l.toList.tail := by decide
  rw [joins, List.any_eq_false]
  intro l hl hp
  obtain ⟨u, hu⟩ := List.isPrefixOf_iff_prefix.mp hp
  cases hs : s.toList with
  | nil => exact h (String.toList_inj.mp hs)
  | cons c cs =>
    refine hlong l hl ?_
    rw [← hu, hs]
    simp

/-- The long signs that start a text are those that start its first sign, where what follows that
one makes it no longer. -/
theorem isPrefixOf_sign_append {s l : String} {rest : List Char} (hl : l ∈ longSigns)
    (hr : ∀ c ∈ rest.head?, joins s c = false) :
    l.toList.isPrefixOf (s.toList ++ rest) = l.toList.isPrefixOf s.toList := by
  rw [Bool.eq_iff_iff, List.isPrefixOf_iff_prefix, List.isPrefixOf_iff_prefix]
  refine ⟨fun hp => ?_, fun hp => hp.trans (List.prefix_append _ _)⟩
  rcases List.prefix_or_prefix_of_prefix hp (List.prefix_append s.toList rest) with h | h
  · exact h
  · obtain ⟨u, hu⟩ := h
    cases u with
    | nil => simp [← hu]
    | cons c u =>
      rw [← hu, List.prefix_append_right_inj] at hp
      obtain ⟨v, hv⟩ := hp
      have hj : joins s c = true := by
        rw [joins, List.any_eq_true]
        refine ⟨l, hl, List.isPrefixOf_iff_prefix.mpr ⟨u, ?_⟩⟩
        rw [← hu, List.append_assoc, List.singleton_append]
      rw [hr c (by rw [← hv]; rfl)] at hj
      exact absurd hj Bool.false_ne_true

theorem sign?_append {s : String} {rest : List Char} (hs : sign? s.toList = some (s, []))
    (hr : ∀ c ∈ rest.head?, joins s c = false) : sign? (s.toList ++ rest) = some (s, rest) := by
  have hfind := List.find?_congr fun l hl => isPrefixOf_sign_append (l := l) hl hr
  unfold sign? at hs ⊢
  rw [hfind]
  split at hs
  next l h =>
    have hl : l = s := congrArg Prod.fst (Option.some.inj hs)
    rw [hl]
    simp [← String.length_toList]
  next h =>
    split at hs
    next c cs hcs =>
      split_ifs at hs with hc
      have hs := Option.some.inj hs
      have hnil : cs = [] := congrArg Prod.snd hs
      have hone : c.toString = s := congrArg Prod.fst hs
      simp only [hcs, hnil, List.singleton_append, hc, if_true, hone]
    next => simp at hs

theorem textSymbol?_quotedChars (make : String → Symbol) (s : String) {rest : List Char}
    (hr : ∀ c ∈ rest.head?, isQuote c = false) :
    textSymbol? make (Text.quotedChars s.toList ++ rest) = some (make s, rest) := by
  have h : rest.head?.all (!isQuote ·) = true := by
    cases hh : rest.head? with
    | none => rfl
    | some c => simp [hr c hh]
  rw [textSymbol?, literalText?_quotedChars _ h]
  simp

theorem isWordChar_of_isDigit {c : Char} (h : c.isDigit = true) : isWordChar c = true := by
  simp [isWordChar, Char.isAlphanum, h]

theorem isDigit_of_not_isWordChar {c : Char} (h : isWordChar c = false) : c.isDigit = false := by
  by_contra hd
  rw [isWordChar_of_isDigit (by simpa using hd)] at h
  exact absurd h (by decide)

theorem natural?_toDigits (n : Nat) {rest : List Char}
    (hr : ∀ c ∈ rest.head?, isWordChar c = false ∧ c ≠ '.') :
    natural? (Nat.toDigits 10 n ++ rest) = some (n, rest) := by
  have hdigit : ∀ c ∈ rest.head?, c.isDigit = false :=
    fun c hc => isDigit_of_not_isWordChar (hr c hc).1
  have hend : rest.head?.any (fun c => isWordChar c || c == '.') = false := by
    cases hh : rest.head? with
    | none => rfl
    | some c => simp [hr c hh]
  have hall : ∀ c ∈ Nat.toDigits 10 n, c.isDigit = true := fun c hc =>
    Nat.isDigit_of_mem_toDigits (by decide) (by decide) hc
  obtain ⟨ht, hd⟩ := Text.takeWhile_dropWhile_append hall hdigit
  simp only [natural?, ht, hd, hend, Nat.ofDigitChars_ten_toDigits, Bool.false_eq_true,
    if_false]

theorem wordSymbol?_append {s : String} {rest : List Char} (hs : ∀ c ∈ s.toList, isWordChar c)
    (hr : ∀ c ∈ rest.head?, isWordChar c = false ∧ isQuote c = false) :
    wordSymbol? (s.toList ++ rest) = some (.word s, rest) := by
  obtain ⟨ht, hd⟩ := Text.takeWhile_dropWhile_append hs fun c hc => (hr c hc).1
  have hq : rest.head?.any isQuote = false := by
    cases hh : rest.head? with
    | none => rfl
    | some c => simp [hr c hh]
  simp [wordSymbol?, ht, hd, hq]

theorem wordSymbol?_formatted (s : String) {rest : List Char}
    (hr : ∀ c ∈ rest.head?, isQuote c = false) :
    wordSymbol? ('f' :: (Text.quotedChars s.toList ++ rest)) = some (.formatted s, rest) := by
  have hq := isQuote_quoteFor s.toList
  have hw : isWordChar (Text.quoteFor s.toList) = false := by
    unfold Text.quoteFor
    split_ifs <;> rfl
  have hlead : ∀ c ∈ (Text.quotedChars s.toList ++ rest).head?, isWordChar c = false := by
    intro c hc
    obtain rfl : Text.quoteFor s.toList = c := Option.some.inj hc
    exact hw
  have hf : ∀ c ∈ ['f'], isWordChar c = true := by
    intro c hc
    obtain rfl := List.mem_singleton.mp hc
    rfl
  obtain ⟨ht, hd⟩ := Text.takeWhile_dropWhile_append hf hlead
  rw [List.singleton_append] at ht hd
  have hhead : (Text.quotedChars s.toList ++ rest).head?.any isQuote = true := hq
  simp only [wordSymbol?, ht, hd, hhead, if_true, beq_self_eq_true,
    textSymbol?_quotedChars .formatted s hr]

theorem sign_cases {s : String} (hs : sign? s.toList = some (s, [])) :
    s ∈ longSigns ∨ ∃ c ∈ shortSigns, s.toList = [c] := by
  unfold sign? at hs
  split at hs
  next l h =>
    obtain rfl : l = s := congrArg Prod.fst (Option.some.inj hs)
    exact Or.inl (List.mem_of_find?_eq_some h)
  next =>
    split at hs
    next c cs hcs =>
      split_ifs at hs with hc
      obtain rfl : cs = [] := congrArg Prod.snd (Option.some.inj hs)
      exact Or.inr ⟨c, List.contains_iff_mem.mp hc, hcs⟩
    next => simp at hs

theorem sign_head {s : String} (hs : sign? s.toList = some (s, [])) :
    ∃ c cs, s.toList = c :: cs ∧ isWordChar c = false ∧ isQuote c = false ∧ c ≠ ' '
      ∧ (c = '-' → s = "-" ∨ ∃ d ds, cs = d :: ds ∧ d.isDigit = false) := by
  rcases sign_cases hs with h | ⟨c, hc, h⟩
  · have hlong : longSigns.all (fun l => l.toList.head?.any (fun c => !isWordChar c && !isQuote c
        && c != ' ') && l.toList.tail.head?.any (!·.isDigit)) = true := by decide
    have hs := List.all_eq_true.mp hlong s h
    simp only [Bool.and_eq_true, Option.any_eq_true, Bool.not_eq_true', bne_iff_ne] at hs
    obtain ⟨⟨c, hc, ⟨hw, hq⟩, hb⟩, d, hd, hdigit⟩ := hs
    obtain ⟨cs, hcs⟩ := List.head?_eq_some_iff.mp hc
    rw [hcs, List.tail_cons] at hd
    obtain ⟨ds, hds⟩ := List.head?_eq_some_iff.mp hd
    exact ⟨c, cs, hcs, hw, hq, hb, fun _ => Or.inr ⟨d, ds, hds, hdigit⟩⟩
  · have hshort : shortSigns.all (fun c => !isWordChar c && !isQuote c && c != ' ') = true := by
      decide
    have hsign := List.all_eq_true.mp hshort c hc
    simp only [Bool.and_eq_true, Bool.not_eq_true', bne_iff_ne] at hsign
    obtain ⟨⟨hw, hq⟩, hb⟩ := hsign
    refine ⟨c, [], h, hw, hq, hb, fun he => Or.inl (String.toList_inj.mp ?_)⟩
    rw [h, he]
    rfl

theorem isQuote_of_isWordChar {c : Char} (h : isWordChar c = true) :
    isQuote c = false ∧ c ≠ ' ' ∧ c ≠ '-' := by
  refine ⟨?_, ?_, ?_⟩
  · by_contra hq
    simp only [isQuote, Bool.not_eq_false, Bool.or_eq_true, beq_iff_eq] at hq
    rcases hq with rfl | rfl <;> exact absurd h (by decide)
  · rintro rfl
    exact absurd h (by decide)
  · rintro rfl
    exact absurd h (by decide)

theorem isDigit_of_isQuote {c : Char} (h : isQuote c = true) : c.isDigit = false := by
  by_contra hd
  rw [(isQuote_of_isWordChar (isWordChar_of_isDigit (by simpa using hd))).1] at h
  exact absurd h (by decide)

theorem word_head {s : String} (h : (word s).isSound = true) :
    ∃ c cs, s.toList = c :: cs ∧ isWordChar c = true ∧ c.isDigit = false := by
  simp only [isSound, Bool.and_eq_true, List.all_eq_true] at h
  cases hl : s.toList with
  | nil => simp [hl] at h
  | cons c cs =>
    simp only [hl, List.head?_cons, Option.any_some, Bool.not_eq_true'] at h
    exact ⟨c, cs, rfl, h.2 c (by simp), h.1⟩

theorem number_head (n : Int) :
    ∃ c cs, (number n).chars = c :: cs ∧ (c.isDigit = true ∨ c = '-') := by
  rcases Number.toList_toString_cases n with ⟨h, -⟩ | ⟨h, -⟩
  · obtain ⟨c, cs, hcs, hd⟩ := Number.toDigits_head n.natAbs
    exact ⟨c, cs, h.trans hcs, Or.inl hd⟩
  · exact ⟨'-', _, h, Or.inr rfl⟩

section

variable {rest : List Char}

theorem symbol?_word {s : String} (hs : (word s).isSound = true)
    (hr : ∀ c ∈ rest.head?, isWordChar c = false ∧ isQuote c = false) :
    symbol? (s.toList ++ rest) = some (.word s, rest) := by
  obtain ⟨c, cs, hcs, hc, hd⟩ := word_head hs
  obtain ⟨hq, hb, hm⟩ := isQuote_of_isWordChar hc
  have hw : wordSymbol? (s.toList ++ rest) = some (.word s, rest) := by
    simp only [isSound, Bool.and_eq_true, List.all_eq_true] at hs
    exact wordSymbol?_append hs.2 hr
  simp only [hcs, List.cons_append] at hw ⊢
  simp [symbol?, hb, hq, hd, hm, hc, hw]

theorem symbol?_number (n : Int) (hr : ∀ c ∈ rest.head?, isWordChar c = false ∧ c ≠ '.') :
    symbol? ((number n).chars ++ rest) = some (.number n, rest) := by
  obtain ⟨c, cs, hcs, hd⟩ := Number.toDigits_head n.natAbs
  obtain ⟨hq, hb, -⟩ := isQuote_of_isWordChar (isWordChar_of_isDigit hd)
  have hn := natural?_toDigits n.natAbs hr
  rw [chars]
  rcases Number.toList_toString_cases n with ⟨h, hpos⟩ | ⟨h, hneg⟩
  · rw [h, hcs, List.cons_append]
    rw [hcs, List.cons_append] at hn
    have habs : (n.natAbs : Int) = n := Int.natAbs_of_nonneg hpos
    simp [symbol?, hb, hq, hd, hn, habs]
  · have hhead : (Nat.toDigits 10 n.natAbs ++ rest).head?.any Char.isDigit = true := by
      rw [hcs]
      exact hd
    have habs : -(n.natAbs : Int) = n := by omega
    rw [h, List.cons_append]
    simp only [symbol?, hhead, hn, Option.map_some, habs]
    rfl

theorem symbol?_text (s : String) (hr : ∀ c ∈ rest.head?, isQuote c = false) :
    symbol? (Text.quotedChars s.toList ++ rest) = some (.text s, rest) := by
  have ht := textSymbol?_quotedChars .text s hr
  have hq := isQuote_quoteFor s.toList
  have hb : Text.quoteFor s.toList ≠ ' ' := by
    intro he
    rw [he] at hq
    exact absurd hq (by decide)
  simp only [Text.quotedChars, List.cons_append] at ht ⊢
  simp only [symbol?, beq_eq_false_iff_ne.mpr hb, hq, Bool.false_eq_true, if_true, if_false]
  exact ht

theorem symbol?_sign {s : String} (hs : sign? s.toList = some (s, []))
    (hr : ∀ c ∈ rest.head?, joins s c = false ∧ (s == "-" && c.isDigit) = false) :
    symbol? (s.toList ++ rest) = some (.sign s, rest) := by
  obtain ⟨c, cs, hcs, hw, hq, hb, hm⟩ := sign_head hs
  have hd := isDigit_of_not_isWordChar hw
  have ha : sign? (s.toList ++ rest) = some (s, rest) := sign?_append hs fun d hd => (hr d hd).1
  -- otherwise the sign would be read as the minus of a number
  have hminus : (c == '-' && (cs ++ rest).head?.any Char.isDigit) = false := by
    by_cases hc : c = '-'
    · rcases hm hc with rfl | ⟨d, ds, rfl, hdigit⟩
      · obtain rfl : [] = cs := congrArg List.tail hcs
        cases hh : rest.head? with
        | none => simp [hh]
        | some d =>
          have hnd := (hr d hh).2
          simpa [hh] using fun _ => hnd
      · simp [hdigit]
    · simp [hc]
  simp only [hcs, List.cons_append] at ha ⊢
  simp only [symbol?, beq_eq_false_iff_ne.mpr hb, hq, hd, hminus, hw, ha, Bool.false_eq_true,
    if_false, Option.map_some]

end

/-- A sound symbol is read back, where it ends before what follows. -/
theorem symbol?_chars {s : Symbol} (hs : s.isSound = true) {rest : List Char}
    (hr : ∀ c ∈ rest.head?, s.endsBefore c = true) :
    symbol? (s.chars ++ rest) = some (s, rest) := by
  cases s with
  | word s => exact symbol?_word hs (by simpa [endsBefore] using hr)
  | number n => exact symbol?_number n (by simpa [endsBefore] using hr)
  | text s => exact symbol?_text s (by simpa [endsBefore] using hr)
  | formatted s => exact wordSymbol?_formatted s (by simpa [endsBefore] using hr)
  | sign s =>
    simp only [endsBefore, Bool.and_eq_true, Bool.not_eq_true'] at hr
    exact symbol?_sign (by simpa [isSound] using hs) hr
  | blank => rfl
  | stray => exact absurd hs (by decide)

theorem chars_ne_nil {s : Symbol} (hs : s.isSound = true) : s.chars ≠ [] := by
  cases s with
  | word s =>
    obtain ⟨c, cs, hcs, -⟩ := word_head hs
    simp [chars, hcs]
  | sign s =>
    obtain ⟨c, cs, hcs, -⟩ := sign_head (s := s) (by simpa [isSound] using hs)
    simp [chars, hcs]
  | number n =>
    obtain ⟨c, cs, hcs, -⟩ := number_head n
    simp [hcs]
  | stray => exact absurd hs (by decide)
  | _ => simp [chars, Text.quotedChars]

theorem endsBefore_of_apart {s t : Symbol} (hs : s.isSound = true) (ht : t.isSound = true)
    (h : s.apart t = true) {c : Char} (hc : t.chars.head? = some c) : s.endsBefore c = true := by
  cases t with
  | blank =>
    obtain rfl : ' ' = c := Option.some.inj hc
    cases s with
    | sign s => simp [endsBefore, joins_eq_false (c := ' ') (by decide)]
    | _ => rfl
  | sign t =>
    obtain ⟨d, ds, hds, hw, hq, -⟩ := sign_head (s := t) (by simpa [isSound] using ht)
    obtain rfl : d = c := by simpa [chars, hds] using hc
    cases s with
    | sign s => simpa [apart, hds, endsBefore, isDigit_of_not_isWordChar hw] using h
    | number n => simpa [apart, hds, endsBefore, hw] using h
    | _ => simp [endsBefore, hw, hq]
  | stray => simp [chars] at hc
  | word t =>
    obtain ⟨d, ds, hds, hw, hd⟩ := word_head ht
    obtain rfl : d = c := by simpa [chars, hds] using hc
    cases s with
    | sign s => simp [endsBefore, joins_eq_false, hw, hd]
    | blank => rfl
    | _ => exact absurd h (by simp [apart])
  | number n =>
    cases s with
    | sign s =>
      have hne : s ≠ "" := by
        rintro rfl
        exact absurd hs (by decide)
      have hm : (s == "-") = false := by simpa [apart] using h
      obtain ⟨d, ds, hds, hd⟩ := number_head n
      obtain rfl : d = c := by simpa [hds] using hc
      rcases hd with hd | rfl
      · simp [endsBefore, hm, joins_eq_false, isWordChar_of_isDigit hd]
      · simp [endsBefore, hm, joins_minus hne]
    | blank => rfl
    | _ => exact absurd h (by simp [apart])
  | text t =>
    obtain rfl : Text.quoteFor t.toList = c := Option.some.inj hc
    have hq := isQuote_quoteFor t.toList
    cases s with
    | sign s => simp [endsBefore, joins_eq_false, hq, isDigit_of_isQuote hq]
    | blank => rfl
    | _ => exact absurd h (by simp [apart])
  | formatted t =>
    obtain rfl : 'f' = c := Option.some.inj hc
    cases s with
    | sign s => simp [endsBefore, joins_eq_false (c := 'f') (by decide)]
    | blank => rfl
    | _ => exact absurd h (by simp [apart])

end Symbol

open SmithyGen.Code.Symbol

theorem run_spell_append {ss : List Symbol} (h : Spelled ss) {rest : List Char}
    (hrest : ∀ s ∈ ss.getLast?, ∀ c ∈ rest.head?, s.endsBefore c = true) :
    Matcher.run symbol? (spell ss ++ rest)
      = (ss ++ (Matcher.run symbol? rest).1, (Matcher.run symbol? rest).2) := by
  obtain ⟨hs, hc⟩ := h
  induction ss with
  | nil => rfl
  | cons s ss ih =>
    have hnext : ∀ c ∈ (spell ss ++ rest).head?, s.endsBefore c = true := by
      intro c hmem
      cases ss with
      | nil => exact hrest s rfl c hmem
      | cons t ss =>
        have ht := hs t (by simp)
        have hhead : t.chars.head? = some c := by
          simpa [spell, List.head?_append_of_ne_nil _ (chars_ne_nil ht)] using hmem
        exact endsBefore_of_apart (hs s (by simp)) ht (List.isChain_cons_cons.mp hc).1 hhead
    have hlast : ∀ t ∈ ss.getLast?, ∀ c ∈ rest.head?, t.endsBefore c = true := by
      intro t ht
      cases ss with
      | nil => simp at ht
      | cons u ss => exact hrest t (by simpa [List.getLast?_cons_cons] using ht)
    have hstep := Matcher.run_append (chars_ne_nil (hs s (by simp)))
      (symbol?_chars (hs s (by simp)) hnext)
    have htail := ih hlast (fun t ht => hs t (List.mem_cons_of_mem _ ht)) hc.tail
    rw [spell, List.flatMap_cons, List.append_assoc]
    rw [spell] at hstep htail
    rw [hstep, htail]
    rfl

theorem symbols_spell_append {ss : List Symbol} (h : Spelled ss) {rest : List Char}
    (hrest : ∀ s ∈ ss.getLast?, ∀ c ∈ rest.head?, s.endsBefore c = true) :
    symbols (spell ss ++ rest) = ss.filter (· != .blank) ++ symbols rest := by
  simp only [symbols, run_spell_append h hrest, List.filter_append, List.append_assoc]

/-- The symbols that a line was spelled from are read back. -/
theorem symbols_spell {ss : List Symbol} (h : Spelled ss) :
    symbols (spell ss) = ss.filter (· != .blank) := by
  have happend : symbols (spell ss ++ []) = ss.filter (· != .blank) ++ symbols [] :=
    symbols_spell_append h (by simp)
  have hnil : symbols [] = [] := rfl
  rwa [List.append_nil, hnil, List.append_nil] at happend

instance (ss : List Symbol) : Decidable (Spelled ss) :=
  decidable_of_iff
    ((∀ s ∈ ss, s.isSound = true) ∧ ss.IsChain (fun s t => s.apart t = true))
    ⟨fun h => ⟨h.1, h.2⟩, fun h => ⟨h.1, h.2⟩⟩

/-- A row whose symbols can be gone through one by one, with texts and numbers left open. -/
theorem Spelled.of_all {ss : List Symbol} (hs : ss.all Symbol.isSound = true)
    (hc : decide (ss.IsChain (fun s t => s.apart t = true)) = true) : Spelled ss where
  sound := List.all_eq_true.mp hs
  isChain := of_decide_eq_true hc

theorem Spelled.append {ss ts : List Symbol} (hs : Spelled ss) (ht : Spelled ts)
    (h : ∀ s ∈ ss.getLast?, ∀ t ∈ ts.head?, s.apart t = true) : Spelled (ss ++ ts) where
  sound := fun s hmem => (List.mem_append.mp hmem).elim (hs.sound s) (ht.sound s)
  isChain := hs.isChain.append ht.isChain h

namespace Symbol

def openers : List String := ["(", "[", "\x7b"]

def closers : List String := [",", ")", "]", "\x7d"]

theorem apart_closer {s : Symbol} (hs : s.isSound = true) {t : String} (ht : t ∈ closers) :
    s.apart (.sign t) = true := by
  have hlong : closers.all (fun t => t.toList.all fun c => longSigns.all fun l =>
      !l.toList.contains c) = true := by decide
  have hpoint : ∀ t ∈ closers, t.toList.head? ≠ some '.' := by decide
  cases s with
  | sign s =>
    rw [apart, Option.all_eq_true]
    intro c hc
    have hj : joins s c = false := by
      rw [joins, List.any_eq_false]
      intro l hl hp
      have hmem : c ∈ l.toList := (List.isPrefixOf_iff_prefix.mp hp).subset (by simp)
      have hnot := List.all_eq_true.mp (List.all_eq_true.mp (List.all_eq_true.mp hlong t ht) c
        (List.mem_of_head? hc)) l hl
      simp [hmem] at hnot
    rw [hj]
    rfl
  | number n => exact bne_iff_ne.mpr (hpoint t ht)
  | stray => exact absurd hs (by decide)
  | _ => rfl

theorem apart_opener {t : String} (ht : t ∈ openers) (s : Symbol) : (sign t).apart s = true := by
  have hlong : ∀ t ∈ openers, ∀ l ∈ longSigns, t.toList.isPrefixOf l.toList = false := by decide
  have hminus : ∀ t ∈ openers, t ≠ "-" := by decide
  cases s with
  | sign s =>
    rw [apart, Option.all_eq_true]
    intro c _
    have hj : joins t c = false := by
      rw [joins, List.any_eq_false]
      intro l hl hp
      have hpre := (List.prefix_append t.toList [c]).trans (List.isPrefixOf_iff_prefix.mp hp)
      rw [← List.isPrefixOf_iff_prefix, hlong t ht l hl] at hpre
      exact absurd hpre Bool.false_ne_true
    rw [hj]
    rfl
  | number n => exact bne_iff_ne.mpr (hminus t ht)
  | _ => rfl

theorem apart_blank (s : Symbol) : (blank).apart s = true := by
  cases s <;> rfl

end Symbol

theorem Spelled.snoc_closer {ss : List Symbol} (h : Spelled ss) {t : String} (ht : t ∈ closers) :
    Spelled (ss ++ [.sign t]) := by
  have hsound : ∀ t ∈ closers, (Symbol.sign t).isSound = true := by decide
  refine h.append ⟨by simpa using hsound t ht, List.isChain_singleton _⟩ ?_
  intro s hs u hu
  obtain rfl : Symbol.sign t = u := Option.some.inj hu
  exact apart_closer (h.sound s (List.mem_of_getLast? hs)) ht

theorem Spelled.append_of_opener {ss ts : List Symbol} (hs : Spelled ss) (ht : Spelled ts)
    {u : String} (hu : u ∈ openers) (h : ss.getLast? = some (.sign u)) : Spelled (ss ++ ts) := by
  refine hs.append ht ?_
  intro s hlast t _
  obtain rfl : Symbol.sign u = s := Option.some.inj (h.symm.trans hlast)
  exact apart_opener hu t

theorem Spelled.append_of_blank {ss ts : List Symbol} (hs : Spelled ss) (ht : Spelled ts)
    (h : ss.getLast? = some .blank) : Spelled (ss ++ ts) := by
  refine hs.append ht ?_
  intro s hlast t _
  obtain rfl : Symbol.blank = s := Option.some.inj (h.symm.trans hlast)
  exact apart_blank t

def comma : List Symbol := [.sign ",", .blank]

theorem spell_append (ss ts : List Symbol) : spell (ss ++ ts) = spell ss ++ spell ts :=
  List.flatMap_append

theorem spell_intercalate (sep : List Symbol) (sss : List (List Symbol)) :
    spell (sep.intercalate sss) = (spell sep).intercalate (sss.map spell) := by
  induction sss with
  | nil => rfl
  | cons ss sss ih =>
    cases sss with
    | nil => simp
    | cons ts sss =>
      rw [List.intercalate_cons_cons, spell_append, spell_append, ih]
      simp [List.intercalate_cons_cons]

theorem filter_intercalate (p : Symbol → Bool) (sep : List Symbol) (sss : List (List Symbol)) :
    (sep.intercalate sss).filter p = (sep.filter p).intercalate (sss.map (·.filter p)) := by
  induction sss with
  | nil => rfl
  | cons ss sss ih =>
    cases sss with
    | nil => simp
    | cons ts sss =>
      rw [List.intercalate_cons_cons, List.filter_append, List.filter_append, ih]
      simp [List.intercalate_cons_cons]

theorem toList_intercalate_comma {xs : List String} {sss : List (List Symbol)}
    (h : xs.map String.toList = sss.map spell) :
    (", ".intercalate xs).toList = spell (comma.intercalate sss) := by
  rw [String.toList_intercalate, h, spell_intercalate]
  rfl

theorem intercalate_cons (sep ss : List Symbol) (sss : List (List Symbol)) :
    sep.intercalate (ss :: sss) = ss ++ sss.flatMap (sep ++ ·) := by
  induction sss generalizing ss with
  | nil => simp
  | cons ts sss ih =>
    rw [List.intercalate_cons_cons, ih, List.flatMap_cons]
    simp only [List.append_assoc]

theorem Spelled.intercalate_comma {sss : List (List Symbol)} (h : ∀ ss ∈ sss, Spelled ss) :
    Spelled (comma.intercalate sss) := by
  have hcomma : Spelled comma := by decide
  induction sss with
  | nil => exact (by decide : Spelled [])
  | cons ss sss ih =>
    have hss := h ss (by simp)
    cases sss with
    | nil => simpa using hss
    | cons ts sss =>
      rw [List.intercalate_cons_cons]
      have hrest := ih fun us hus => h us (List.mem_cons_of_mem _ hus)
      have hfirst : Spelled (ss ++ comma) := by
        refine hss.append hcomma ?_
        intro s hs t ht
        obtain rfl : Symbol.sign "," = t := Option.some.inj ht
        exact apart_closer (hss.sound s (List.mem_of_getLast? hs)) (by decide)
      exact hfirst.append_of_blank hrest (by simp [comma])

def margin : List Symbol := [.blank, .blank, .blank, .blank]

theorem symbols_margin (cs : List Char) : symbols (spell margin ++ cs) = symbols cs := by
  refine symbols_spell_append (by decide) ?_
  intro s hs c _
  obtain rfl : Symbol.blank = s := Option.some.inj hs
  rfl

end Code

end SmithyGen
