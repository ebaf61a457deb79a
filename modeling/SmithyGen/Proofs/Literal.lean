import SmithyGen.Code.Literal
import SmithyGen.Text.Quoted
import Mathlib.Algebra.Group.Nat.Defs
import Mathlib.Data.List.Basic
import Mathlib.Tactic.SplitIfs

namespace SmithyGen.Code

def charOfCode? (width : Nat) (cs : List Char) : Option (Char × List Char) :=
  let n := hexValue (cs.take width)
  if startsHex width cs && decide n.isValidChar then some (Char.ofNat n, cs.drop width) else none

def bodyChar? : List Char → Option (Char × List Char)
  | [] => none
  | '\\' :: 'n' :: cs => some ('\n', cs)
  | '\\' :: 'r' :: cs => some ('\r', cs)
  | '\\' :: 't' :: cs => some ('\t', cs)
  | '\\' :: 'x' :: cs => charOfCode? 2 cs
  | '\\' :: 'u' :: cs => charOfCode? 4 cs
  | '\\' :: 'U' :: cs => charOfCode? 8 cs
  | '\\' :: c :: cs => if c == '\\' || isQuote c then some (c, cs) else none
  | c :: cs => if c == '\\' || c == '\n' then none else some (c, cs)

/-- The text up to the closing quote, and what follows that; `skip` counts the characters of an
escape still to be passed over. -/
def textFrom (quote : Char) : (skip : Nat) → List Char → Option (List Char × List Char)
  | _, [] => none
  | skip + 1, _ :: cs => textFrom quote skip cs
  | 0, c :: cs =>
    if c == quote then some ([], cs)
    else match bodyChar? (c :: cs) with
      | some (d, rest) =>
        (textFrom quote (cs.length - rest.length) cs).map fun (text, left) => (d :: text, left)
      | none => none

/-- The text of the literal that starts a text. A literal between three quotes is none of these. -/
def literalText? : List Char → Option (List Char × List Char)
  | [] => none
  | q :: cs => if isQuote q && cs.take 2 != [q, q] then textFrom q 0 cs else none

theorem hexValue_append_singleton (cs : List Char) (c : Char) :
    hexValue (cs ++ [c])
      = 16 * hexValue cs + (if c.isDigit then c.toNat - 48 else c.toLower.toNat - 87) := by
  rw [hexValue, List.foldl_append]
  rfl

theorem hexValue_digitChar : ∀ d < 16, hexValue [Nat.digitChar d] = d := by decide

theorem isHexDigit_digitChar : ∀ d < 16, isHexDigit (Nat.digitChar d) = true := by decide

theorem hexValue_append_digitChar (cs : List Char) {d : Nat} (h : d < 16) :
    hexValue (cs ++ [Nat.digitChar d]) = 16 * hexValue cs + d := by
  have hd := hexValue_append_singleton [] (Nat.digitChar d)
  rw [List.nil_append, hexValue_digitChar d h] at hd
  rw [hexValue_append_singleton]
  simp only [hexValue, List.foldl_nil] at hd ⊢
  omega

theorem hexValue_toDigits (n : Nat) : hexValue (Nat.toDigits 16 n) = n := by
  induction n using Nat.strongRecOn with
  | ind n ih =>
    rw [Nat.toDigits_eq_if (by decide)]
    split_ifs with h
    · exact hexValue_digitChar n h
    · rw [hexValue_append_digitChar _ (Nat.mod_lt _ (by decide)), ih (n / 16) (by omega)]
      omega

theorem isHexDigit_of_mem_toDigits {n : Nat} {c : Char} (h : c ∈ Nat.toDigits 16 n) :
    isHexDigit c := by
  induction n using Nat.strongRecOn with
  | ind n ih =>
    rw [Nat.toDigits_eq_if (by decide)] at h
    split_ifs at h with hn
    · rw [List.mem_singleton.mp h]
      exact isHexDigit_digitChar n hn
    · rcases List.mem_append.mp h with h | h
      · exact ih (n / 16) (by omega) h
      · rw [List.mem_singleton.mp h]
        exact isHexDigit_digitChar _ (Nat.mod_lt _ (by decide))

theorem hexValue_replicate_zero_append (k : Nat) (cs : List Char) :
    hexValue (List.replicate k '0' ++ cs) = hexValue cs := by
  induction k with
  | zero => rfl
  | succ k ih => exact ih

theorem hexValue_hexDigits (width n : Nat) : hexValue (Text.hexDigits width n) = n := by
  rw [Text.hexDigits, hexValue_replicate_zero_append, hexValue_toDigits]

theorem length_hexDigits {width n : Nat} (hw : 0 < width) (h : n < 16 ^ width) :
    (Text.hexDigits width n).length = width := by
  have hl := (Nat.length_toDigits_le_iff (by decide) hw).mpr h
  rw [Text.hexDigits, List.length_append, List.length_replicate]
  omega

theorem startsHex_hexDigits {width n : Nat} (hw : 0 < width) (h : n < 16 ^ width)
    (rest : List Char) : startsHex width (Text.hexDigits width n ++ rest) := by
  have hl := length_hexDigits hw h
  rw [startsHex, List.take_left' hl, hl, Bool.and_eq_true]
  refine ⟨beq_self_eq_true _, List.all_eq_true.mpr ?_⟩
  intro c hc
  rcases List.mem_append.mp hc with hc | hc
  · rw [List.eq_of_mem_replicate hc]
    rfl
  · exact isHexDigit_of_mem_toDigits hc

theorem charOfCode?_hexDigits {width : Nat} {c : Char} (hw : 0 < width)
    (h : c.toNat < 16 ^ width) (rest : List Char) :
    charOfCode? width (Text.hexDigits width c.toNat ++ rest) = some (c, rest) := by
  have hl := length_hexDigits hw h
  have hv : c.toNat.isValidChar := c.valid
  simp only [charOfCode?, List.take_left' hl, List.drop_left' hl, hexValue_hexDigits,
    startsHex_hexDigits hw h, hv, decide_true, Bool.and_self, if_true, Char.ofNat_toNat]

theorem bodyChar?_escapeCode (c : Char) (rest : List Char) :
    bodyChar? (Text.escapeCode c ++ rest) = some (c, rest) := by
  unfold Text.escapeCode
  split_ifs with h h'
  · exact charOfCode?_hexDigits (by decide) (by simpa using h) rest
  · exact charOfCode?_hexDigits (by decide) (by simpa using h') rest
  · have hc : c.toNat < 0x110000 := by
      have := c.valid
      unfold UInt32.isValidChar Nat.isValidChar at this
      change c.val.toNat < 0x110000
      omega
    exact charOfCode?_hexDigits (by decide) (by omega) rest

theorem isQuote_quoteFor (cs : List Char) : isQuote (Text.quoteFor cs) := by
  unfold Text.quoteFor
  split_ifs <;> rfl

/-- A written character is read back, and never as the closing quote. -/
theorem bodyChar?_escapeChar {quote : Char} (hq : isQuote quote) (c : Char) (rest : List Char) :
    bodyChar? (Text.escapeChar quote c ++ rest) = some (c, rest) := by
  unfold Text.escapeChar
  split_ifs with h1 h2 h3 h4 h5
  · have hc : c = '\\' ∨ c = '"' ∨ c = '\'' := by
      simp only [isQuote, Bool.or_eq_true, beq_iff_eq] at hq h1
      rcases h1 with rfl | rfl
      · exact Or.inr hq
      · exact Or.inl rfl
    rcases hc with rfl | rfl | rfl <;> rfl
  · rw [beq_iff_eq.mp h2]
    rfl
  · rw [beq_iff_eq.mp h3]
    rfl
  · rw [beq_iff_eq.mp h4]
    rfl
  · simp only [Bool.or_eq_true, beq_iff_eq, not_or] at h1 h2
    have hne : (c == '\\' || c == '\n') = false := by simp [h1.2, h2]
    rw [List.singleton_append]
    unfold bodyChar?
    split <;> simp_all
  · exact bodyChar?_escapeCode c rest

theorem escapeChar_ne_quote {quote : Char} (hq : isQuote quote) (c : Char) :
    ∃ d ds, Text.escapeChar quote c = d :: ds ∧ d ≠ quote := by
  have hne : '\\' ≠ quote := by
    rintro rfl
    exact absurd hq (by decide)
  have hcode : ∃ ds, Text.escapeCode c = '\\' :: ds := by
    unfold Text.escapeCode
    split_ifs <;> exact ⟨_, rfl⟩
  unfold Text.escapeChar
  split_ifs with h1
  · exact ⟨_, _, rfl, hne⟩
  · exact ⟨_, _, rfl, hne⟩
  · exact ⟨_, _, rfl, hne⟩
  · exact ⟨_, _, rfl, hne⟩
  · exact ⟨c, [], rfl, by simpa using fun he : c = quote => h1 (by simp [he])⟩
  · obtain ⟨ds, hds⟩ := hcode
    exact ⟨_, ds, hds, hne⟩

def isLiteralMark (c : Char) : Bool :=
  isQuote c || isHexDigit c || ['\\', 'n', 'r', 't', 'x', 'u', 'U'].contains c

theorem isLiteralMark_of_mem_hexDigits {width n : Nat} {c : Char}
    (h : c ∈ Text.hexDigits width n) : isLiteralMark c = true := by
  rcases List.mem_append.mp h with h | h
  · rw [List.eq_of_mem_replicate h]
    rfl
  · simp [isLiteralMark, isHexDigit_of_mem_toDigits h]

theorem mem_escapeChar {quote c d : Char} (h : d ∈ Text.escapeChar quote c) :
    d = c ∨ isLiteralMark d = true := by
  unfold Text.escapeChar Text.escapeCode at h
  split_ifs at h
  all_goals simp only [List.mem_cons, List.not_mem_nil, or_false] at h
  · rcases h with rfl | rfl
    · exact Or.inr rfl
    · exact Or.inl rfl
  · rcases h with rfl | rfl <;> exact Or.inr rfl
  · rcases h with rfl | rfl <;> exact Or.inr rfl
  · rcases h with rfl | rfl <;> exact Or.inr rfl
  · exact Or.inl h
  all_goals
    rcases h with rfl | rfl | h
    · exact Or.inr rfl
    · exact Or.inr rfl
    · exact Or.inr (isLiteralMark_of_mem_hexDigits h)

theorem mem_quotedChars {s : List Char} {d : Char} (h : d ∈ Text.quotedChars s) :
    d ∈ s ∨ isLiteralMark d = true := by
  have hquote : isLiteralMark (Text.quoteFor s) = true := by
    have hq := isQuote_quoteFor s
    simp [isLiteralMark, hq]
  simp only [Text.quotedChars, List.mem_cons, List.mem_append, List.mem_flatMap, List.not_mem_nil,
    or_false] at h
  rcases h with rfl | ⟨c, hc, hd⟩ | rfl
  · exact Or.inr hquote
  · rcases mem_escapeChar hd with rfl | hmark
    · exact Or.inl hc
    · exact Or.inr hmark
  · exact Or.inr hquote

theorem textFrom_append (quote : Char) (x cs : List Char) :
    textFrom quote x.length (x ++ cs) = textFrom quote 0 cs := by
  induction x with
  | nil => rfl
  | cons c x ih => exact ih

theorem textFrom_cons {quote c d : Char} {x rest : List Char} (hne : c ≠ quote)
    (h : bodyChar? (c :: (x ++ rest)) = some (d, rest)) :
    textFrom quote 0 (c :: (x ++ rest))
      = (textFrom quote 0 rest).map fun (text, left) => (d :: text, left) := by
  have hl : (x ++ rest).length - rest.length = x.length := by
    rw [List.length_append]
    omega
  simp only [textFrom, beq_eq_false_iff_ne.mpr hne, h, hl, textFrom_append]
  rfl

theorem textFrom_flatMap_escapeChar {quote : Char} (hq : isQuote quote) (s rest : List Char) :
    textFrom quote 0 (s.flatMap (Text.escapeChar quote) ++ quote :: rest) = some (s, rest) := by
  induction s with
  | nil => simp [textFrom]
  | cons c s ih =>
    obtain ⟨d, ds, he, hd⟩ := escapeChar_ne_quote hq c
    have hc := bodyChar?_escapeChar hq c (s.flatMap (Text.escapeChar quote) ++ quote :: rest)
    rw [he, List.cons_append] at hc
    rw [List.flatMap_cons, List.append_assoc, he, List.cons_append, textFrom_cons hd hc, ih]
    rfl

/-- The literal of a text is read as the text, where no further quote follows it. -/
theorem literalText?_quotedChars (s : List Char) {rest : List Char}
    (h : rest.head?.all (!isQuote ·)) :
    literalText? (Text.quotedChars s ++ rest) = some (s, rest) := by
  have hq := isQuote_quoteFor s
  have hcut : (s.flatMap (Text.escapeChar (Text.quoteFor s)) ++ Text.quoteFor s :: rest).take 2
      ≠ [Text.quoteFor s, Text.quoteFor s] := by
    cases s with
    | nil =>
      intro he
      cases rest with
      | nil => simp at he
      | cons c rest =>
        simp only [List.flatMap_nil, List.nil_append, List.take_succ_cons, List.take_zero,
          List.cons.injEq, and_true, true_and] at he
        rw [he] at h
        simp [hq] at h
    | cons c s =>
      obtain ⟨d, ds, he, hd⟩ := escapeChar_ne_quote hq c
      rw [List.flatMap_cons, he]
      simpa using fun hd' => absurd hd' hd
  have ht := textFrom_flatMap_escapeChar hq s rest
  simp only [Text.quotedChars, List.cons_append, List.append_assoc, List.nil_append, literalText?,
    hq, bne_iff_ne.mpr hcut, Bool.and_self, if_true]
  exact ht

end SmithyGen.Code
