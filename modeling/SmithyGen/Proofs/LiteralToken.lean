import Mathlib.Data.Option.Basic
import SmithyGen.Code.Token
import SmithyGen.Proofs.Literal
import SmithyGen.Proofs.Text

namespace SmithyGen.Code

def escapeMarks : List Char := ['\\', '"', '\'', 'n', 'r', 't', 'x', 'u', 'U']

theorem hasSoundEscapes_of_not_mem {ds : List Char} (h : '\\' ∉ ds) (rest : List Char) :
    hasSoundEscapes false (ds ++ rest) = hasSoundEscapes false rest := by
  induction ds with
  | nil => rfl
  | cons d ds ih =>
    obtain ⟨hd, hds⟩ : '\\' ≠ d ∧ '\\' ∉ ds := by simpa using h
    have hne : ¬ d = '\\' := Ne.symm hd
    rw [List.cons_append, hasSoundEscapes, ih hds] <;> simp [hne]

theorem isQuote_iff {c : Char} : isQuote c = true ↔ c = '"' ∨ c = '\'' := by
  simp [isQuote]

theorem ne_backslash_of_isQuote {c : Char} (h : isQuote c = true) : c ≠ '\\' := by
  rintro rfl
  exact absurd h (by decide)

theorem ne_backslash_of_isHexDigit {c : Char} (h : isHexDigit c = true) : c ≠ '\\' := by
  rintro rfl
  exact absurd h (by decide)

theorem isHexDigit_of_mem_hexDigits {width n : Nat} {c : Char} (h : c ∈ Text.hexDigits width n) :
    isHexDigit c = true := by
  rcases List.mem_append.mp h with h | h
  · rw [List.eq_of_mem_replicate h]
    rfl
  · exact isHexDigit_of_mem_toDigits h

theorem hasSoundEscapes_hexDigits (width n : Nat) (rest : List Char) :
    hasSoundEscapes false (Text.hexDigits width n ++ rest) = hasSoundEscapes false rest :=
  hasSoundEscapes_of_not_mem
    (fun h => ne_backslash_of_isHexDigit (isHexDigit_of_mem_hexDigits h) rfl) rest

/-- How a character is written in a literal: as itself, or as a backslash, a mark and digits. -/
inductive Escape (quote c : Char) : List Char → Prop where
  | none (hquote : c ≠ quote) (hbackslash : c ≠ '\\') (hline : c ≠ '\n') : Escape quote c [c]
  | some {mark : Char} {digits : List Char} (hmark : mark ∈ escapeMarks)
      (hdigits : ∀ d ∈ digits, isHexDigit d = true)
      (hsound : ∀ rest, hasSoundEscapes false ('\\' :: mark :: (digits ++ rest))
        = hasSoundEscapes false rest) : Escape quote c ('\\' :: mark :: digits)

theorem escape_escapeCode (quote c : Char) : Escape quote c (Text.escapeCode c) := by
  have hdigits : ∀ width, ∀ d ∈ Text.hexDigits width c.toNat, isHexDigit d = true :=
    fun _ _ => isHexDigit_of_mem_hexDigits
  unfold Text.escapeCode
  split_ifs with h h'
  · refine .some (by decide) (hdigits 2) fun rest => ?_
    rw [hasSoundEscapes, startsHex_hexDigits (by decide) (by simpa using h), Bool.true_and,
      hasSoundEscapes_hexDigits]
  · refine .some (by decide) (hdigits 4) fun rest => ?_
    rw [hasSoundEscapes, startsHex_hexDigits (by decide) (by simpa using h'), Bool.or_true,
      Bool.true_and, hasSoundEscapes_hexDigits]
  · have hc : c.toNat < 0x110000 := by
      have := c.valid
      unfold UInt32.isValidChar Nat.isValidChar at this
      change c.val.toNat < 0x110000
      omega
    have hlength : (Text.hexDigits 8 c.toNat).length = 8 := length_hexDigits (by decide) (by omega)
    refine .some (by decide) (hdigits 8) fun rest => ?_
    have hle : decide (c.toNat ≤ 0x10ffff) = true := by simpa using by omega
    rw [hasSoundEscapes, startsHex_hexDigits (by decide) (by omega), List.take_left' hlength,
      hexValue_hexDigits, hle, Bool.true_and, Bool.or_true, Bool.true_and,
      hasSoundEscapes_hexDigits]

theorem escape_escapeChar {quote : Char} (hq : isQuote quote = true) (c : Char) :
    Escape quote c (Text.escapeChar quote c) := by
  have hmark : ∀ {d : Char}, d ∈ ['\\', '"', '\'', 'n', 'r', 't'] → Escape quote c ['\\', d] := by
    intro d hd
    simp only [List.mem_cons, List.not_mem_nil, or_false] at hd
    refine .some ?_ (by simp) fun rest => ?_
    · rcases hd with rfl | rfl | rfl | rfl | rfl | rfl <;> decide
    · rcases hd with rfl | rfl | rfl | rfl | rfl | rfl <;> rfl
  unfold Text.escapeChar
  split_ifs with h1 h2 h3 h4 h5
  · refine hmark ?_
    simp only [Bool.or_eq_true, beq_iff_eq] at h1
    rcases h1 with rfl | rfl
    · rcases isQuote_iff.mp hq with rfl | rfl <;> decide
    · decide
  · exact hmark (by decide)
  · exact hmark (by decide)
  · exact hmark (by decide)
  · simp only [Bool.or_eq_true, beq_iff_eq, not_or] at h1 h2
    exact .none h1.1 h1.2 h2
  · exact escape_escapeCode quote c

theorem lineBody?_append {quote : Char} {ds rest : List Char}
    (h : ∀ d ∈ ds, d ≠ quote ∧ d ≠ '\\' ∧ d ≠ '\n') :
    lineBody? quote (ds ++ rest)
      = (lineBody? quote rest).map fun (body, left) => (ds ++ body, left) := by
  induction ds with
  | nil => simp
  | cons d ds ih =>
    obtain ⟨hquote, hbackslash, hline⟩ := h d (by simp)
    rw [List.cons_append, lineBody?, ih fun e he => h e (by simp [he])]
    · simp [hquote, hline, Function.comp_def]
    · simp [hbackslash]

theorem Escape.lineBody?_eq {quote c : Char} (hq : isQuote quote = true) {cs : List Char}
    (h : Escape quote c cs) (rest : List Char) :
    lineBody? quote (cs ++ rest)
      = (lineBody? quote rest).map fun (body, left) => (cs ++ body, left) := by
  cases h with
  | none hquote hbackslash hline =>
    exact lineBody?_append (by simpa using ⟨hquote, hbackslash, hline⟩)
  | @some mark digits hmark hdigits =>
    have hplain : ∀ d ∈ digits, d ≠ quote ∧ d ≠ '\\' ∧ d ≠ '\n' := by
      intro d hd
      have hdigit := hdigits d hd
      refine ⟨?_, ne_backslash_of_isHexDigit hdigit, ?_⟩
      · rintro rfl
        rcases isQuote_iff.mp hq with rfl | rfl <;> exact absurd hdigit (by decide)
      · rintro rfl
        exact absurd hdigit (by decide)
    rw [List.cons_append, List.cons_append, lineBody?, lineBody?_append hplain, Option.map_map]
    rfl

/-- The body of a literal, as it is written for a text. -/
theorem lineBody?_flatMap {quote : Char} (hq : isQuote quote = true) (cs rest : List Char) :
    lineBody? quote (cs.flatMap (Text.escapeChar quote) ++ quote :: rest)
      = some (cs.flatMap (Text.escapeChar quote), rest) := by
  induction cs with
  | nil =>
    have hne := ne_backslash_of_isQuote hq
    rw [List.flatMap_nil, List.nil_append, lineBody?]
    · simp
    · simp [hne]
  | cons c cs ih =>
    rw [List.flatMap_cons, List.append_assoc, (escape_escapeChar hq c).lineBody?_eq hq, ih]
    rfl

theorem hasSoundEscapes_flatMap {quote : Char} (hq : isQuote quote = true) (cs : List Char) :
    hasSoundEscapes false (cs.flatMap (Text.escapeChar quote)) = true := by
  induction cs with
  | nil => rfl
  | cons c cs ih =>
    rw [List.flatMap_cons]
    generalize Text.escapeChar quote c = written, escape_escapeChar hq c = h at *
    cases h with
    | none _ hbackslash _ =>
      rw [hasSoundEscapes_of_not_mem (by simpa using Ne.symm hbackslash), ih]
    | some _ _ hsound => rw [List.cons_append, List.cons_append, hsound, ih]

theorem flatMap_eq_self {f : Char → List Char} {cs : List Char} (h : ∀ c ∈ cs, f c = [c]) :
    cs.flatMap f = cs := by
  induction cs with
  | nil => rfl
  | cons c cs ih =>
    rw [List.flatMap_cons, h c (by simp), ih fun d hd => h d (by simp [hd]), List.singleton_append]

theorem literalBody?_quotedChars (cs : List Char) :
    literalBody? (Text.quotedChars cs)
      = some (cs.flatMap (Text.escapeChar (Text.quoteFor cs)), []) := by
  have hq := isQuote_quoteFor cs
  generalize hquote : Text.quoteFor cs = quote at hq ⊢
  have hcut : ((cs.flatMap (Text.escapeChar quote) ++ [quote]).take 2 == [quote, quote])
      = false := by
    rw [beq_eq_false_iff_ne]
    cases cs with
    | nil => simp
    | cons c cs =>
      obtain ⟨d, ds, he, hd⟩ := escapeChar_ne_quote hq c
      rw [List.flatMap_cons, he]
      simpa using fun hd' => absurd hd' hd
  rw [Text.quotedChars, hquote, literalBody?, hq, hcut]
  exact lineBody?_flatMap hq cs []

/-- The fields of the literal that a text is, as a token of generated code. -/
def literalExpressions? (cs : List Char) : Option (List (List Char)) :=
  match wordOrLiteral? cs with
  | some (.text false expressions, []) => some expressions
  | _ => none

theorem literal?_quotedChars (isFormatted : Bool) (cs : List Char) :
    literal? { formatted := isFormatted } (Text.quotedChars cs)
      = (if isFormatted then fields? false (cs.flatMap (Text.escapeChar (Text.quoteFor cs)))
          else some []).map fun expressions => (.text false expressions, []) := by
  have hsound := hasSoundEscapes_flatMap (isQuote_quoteFor cs) cs
  rw [literal?, literalBody?_quotedChars]
  simp only [Option.bind_eq_bind, Option.bind_some, literalFields?, hsound]
  cases isFormatted with
  | false => rfl
  | true => cases fields? false (cs.flatMap (Text.escapeChar (Text.quoteFor cs))) <;> rfl

section Expressions

variable (cs : List Char)

theorem takeWhile_quotedChars : (Text.quotedChars cs).takeWhile isWordChar = [] := by
  unfold Text.quotedChars Text.quoteFor
  split_ifs <;> rfl

theorem dropWhile_quotedChars :
    (Text.quotedChars cs).dropWhile isWordChar = Text.quotedChars cs := by
  unfold Text.quotedChars Text.quoteFor
  split_ifs <;> rfl

theorem isQuote_head_quotedChars : (Text.quotedChars cs).head?.any isQuote = true :=
  isQuote_quoteFor cs

theorem literalExpressions?_quotedChars :
    literalExpressions? (Text.quotedChars cs) = some [] := by
  have hmark : literalMark? [] = some {} := by rfl
  rw [literalExpressions?, wordOrLiteral?, takeWhile_quotedChars, dropWhile_quotedChars,
    isQuote_head_quotedChars, if_pos rfl, hmark]
  simp only [literal?_quotedChars false cs]
  rfl

theorem literalExpressions?_formatted :
    literalExpressions? ('f' :: Text.quotedChars cs)
      = fields? false (cs.flatMap (Text.escapeChar (Text.quoteFor cs))) := by
  have hmark : literalMark? ['f'] = some { formatted := true } := by rfl
  have htake : ('f' :: Text.quotedChars cs).takeWhile isWordChar = ['f'] := by
    rw [List.takeWhile_cons, if_pos (by decide), takeWhile_quotedChars]
  have hdrop : ('f' :: Text.quotedChars cs).dropWhile isWordChar = Text.quotedChars cs := by
    rw [List.dropWhile_cons, if_pos (by decide), dropWhile_quotedChars]
  rw [literalExpressions?, wordOrLiteral?, htake, hdrop, isQuote_head_quotedChars, if_pos rfl,
    hmark]
  simp only [literal?_quotedChars true cs]
  cases fields? false (cs.flatMap (Text.escapeChar (Text.quoteFor cs))) <;> rfl

end Expressions

end SmithyGen.Code
