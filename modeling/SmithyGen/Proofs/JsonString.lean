import SmithyGen.Json.Writer
import SmithyGen.Json.Reader
import SmithyGen.Proofs.Literal

namespace SmithyGen.Json

/-- What stands between the quotes of a literal, and the text it spells: a character stands for
itself, or is escaped by a letter, by its code unit or by a pair of surrogates. -/
inductive Spells : List Char → List Char → Prop
  | nil : Spells [] []
  | plain {c : Char} {body text : List Char} (hquote : c ≠ '"') (hslash : c ≠ '\\')
      (hcontrol : 32 ≤ c.toNat) (h : Spells body text) : Spells (c :: body) (c :: text)
  | short {e c : Char} {body text : List Char} (hc : shortEscape? e = some c.toNat)
      (h : Spells body text) : Spells ('\\' :: e :: body) (c :: text)
  | unit {w x y z c : Char} {body text : List Char} (hc : hex4? w x y z = some c.toNat)
      (h : Spells body text) : Spells ('\\' :: 'u' :: w :: x :: y :: z :: body) (c :: text)
  | pair {w x y z w' x' y' z' : Char} {hi lo : Nat} {body text : List Char}
      (hhi : hex4? w x y z = some hi) (hhigh : isHighSurrogate hi = true)
      (hlo : hex4? w' x' y' z' = some lo) (hlow : isLowSurrogate lo = true)
      (h : Spells body text) :
      Spells ('\\' :: 'u' :: w :: x :: y :: z :: '\\' :: 'u' :: w' :: x' :: y' :: z' :: body)
        (Char.ofNat (0x10000 + (hi - 0xD800) * 0x400 + (lo - 0xDC00)) :: text)

theorem isSurrogate_toNat (c : Char) :
    isHighSurrogate c.toNat = false ∧ isLowSurrogate c.toNat = false := by
  have hvalid : c.toNat < 0xD800 ∨ 0xDFFF < c.toNat ∧ c.toNat < 0x110000 := c.valid
  simp only [isHighSurrogate, isLowSurrogate, Bool.and_eq_false_iff, decide_eq_false_iff_not]
  omega

theorem joinUnits_toNat (c : Char) (ns : List Nat) :
    joinUnits (c.toNat :: ns) = c :: joinUnits ns := by
  obtain ⟨hhigh, hlow⟩ := isSurrogate_toNat c
  have hunit : unitChar c.toNat = c := by simp [unitChar, hhigh, hlow]
  cases ns with
  | nil => simp [joinUnits, hunit]
  | cons n ns => simp [joinUnits, hhigh, hunit]

theorem stringUnits_plain {c : Char} (hquote : c ≠ '"') (hslash : c ≠ '\\')
    (hcontrol : 32 ≤ c.toNat) (opening : Nat) (cs : List Char) :
    stringUnits opening (c :: cs)
      = (stringUnits opening cs).map fun (ns, rest) => (c.toNat :: ns, rest) := by
  rw [stringUnits]
  · exact if_neg (by omega)
  all_goals simp [hquote, hslash]

theorem stringUnits_short {e : Char} {n : Nat} (he : shortEscape? e = some n) (opening : Nat)
    (cs : List Char) :
    stringUnits opening ('\\' :: e :: cs)
      = (stringUnits opening cs).map fun (ns, rest) => (n :: ns, rest) := by
  have hu : e ≠ 'u' := by
    rintro rfl
    cases he
  rw [stringUnits]
  · rw [he]
  all_goals simp [hu]

theorem stringUnits_unit {w x y z : Char} {n : Nat} (hn : hex4? w x y z = some n) (opening : Nat)
    {cs : List Char} (hcs : cs ≠ []) :
    stringUnits opening ('\\' :: 'u' :: w :: x :: y :: z :: cs)
      = (stringUnits opening cs).map fun (ns, rest) => (n :: ns, rest) := by
  cases cs with
  | nil => exact absurd rfl hcs
  | cons e cs => rw [stringUnits, hn]

namespace Spells

variable {body text : List Char}

theorem stringUnits_append (h : Spells body text) (opening : Nat) (rest : List Char) :
    ∃ ns, stringUnits opening (body ++ '"' :: rest) = .ok (ns, rest) ∧ joinUnits ns = text := by
  induction h with
  | nil => exact ⟨[], rfl, rfl⟩
  | @plain c body text hquote hslash hcontrol h ih =>
    obtain ⟨ns, hunits, htext⟩ := ih
    refine ⟨c.toNat :: ns, ?_, by rw [joinUnits_toNat, htext]⟩
    rw [List.cons_append, stringUnits_plain hquote hslash hcontrol, hunits]
    rfl
  | @short e c body text hc h ih =>
    obtain ⟨ns, hunits, htext⟩ := ih
    refine ⟨c.toNat :: ns, ?_, by rw [joinUnits_toNat, htext]⟩
    rw [List.cons_append, List.cons_append, stringUnits_short hc, hunits]
    rfl
  | @unit w x y z c body text hc h ih =>
    obtain ⟨ns, hunits, htext⟩ := ih
    refine ⟨c.toNat :: ns, ?_, by rw [joinUnits_toNat, htext]⟩
    simp only [List.cons_append]
    rw [stringUnits_unit hc _ (by simp), hunits]
    rfl
  | @pair w x y z w' x' y' z' hi lo body text hhi hhigh hlo hlow h ih =>
    obtain ⟨ns, hunits, htext⟩ := ih
    refine ⟨hi :: lo :: ns, ?_, by simp [joinUnits, hhigh, hlow, htext]⟩
    simp only [List.cons_append]
    rw [stringUnits_unit hhi _ (by simp), stringUnits_unit hlo _ (by simp), hunits]
    rfl

theorem string_append (h : Spells body text) (rest : List Char) :
    string (body ++ '"' :: rest) = .ok (String.ofList text, rest) := by
  obtain ⟨ns, hunits, htext⟩ := h.stringUnits_append ((body ++ '"' :: rest).length + 1) rest
  rw [string, hunits, ← htext]
  rfl

/-- A literal is a document of its own, whose value is the text that it spells. -/
theorem decode_literal (h : Spells body text) :
    decode (String.ofList ('"' :: (body ++ ['"']))) = .ok (.str (String.ofList text)) := by
  have hskip : skip ('"' :: (body ++ ['"'])) = '"' :: (body ++ ['"']) := rfl
  have hstring (fuel : Nat) (cs : List Char) :
      value (fuel + 1) ('"' :: cs) = (string cs).map fun p => (.str p.1, p.2) := rfl
  have hvalue (fuel : Nat) : value (fuel + 1) ('"' :: (body ++ ['"']))
      = .ok (.str (String.ofList text), []) := by
    rw [hstring, h.string_append []]
    rfl
  have hdocument : document ('"' :: (body ++ ['"'])) = .ok (.str (String.ofList text)) := by
    rw [document, hskip, hvalue]
    · rfl
    · simp
  rw [decode, String.toList_ofList, hdocument]
  rfl

end Spells

theorem hexValue?_digitChar : ∀ d < 16, hexValue? (Nat.digitChar d) = some d := by decide

theorem hexDigits_control : ∀ n < 32,
    Text.hexDigits 4 n = ['0', '0', Nat.digitChar (n / 16), Nat.digitChar (n % 16)] := by decide

theorem Spells.append_escape (c : Char) {body text : List Char} (h : Spells body text) :
    Spells (escape c ++ body) (c :: text) := by
  rw [escape]
  split
  next hc =>
    have hshort : shortEscape? c = some c.toNat := by
      rcases Bool.or_eq_true_iff.mp hc with hc | hc <;> rw [beq_iff_eq.mp hc] <;> rfl
    exact .short hshort h
  next hc =>
    simp only [Bool.or_eq_true, beq_iff_eq, not_or] at hc
    split
    next hcontrol =>
      have hhigh := hexValue?_digitChar (c.toNat / 16) (by omega)
      have hlow := hexValue?_digitChar (c.toNat % 16) (by omega)
      have hunit : hex4? '0' '0' (Nat.digitChar (c.toNat / 16)) (Nat.digitChar (c.toNat % 16))
          = some c.toNat := by
        have hzero : hexValue? '0' = some 0 := rfl
        simp only [hex4?, hzero, hhigh, hlow, Option.bind_eq_bind, Option.bind_some, Option.pure_def,
          Option.some.injEq]
        omega
      rw [hexDigits_control _ hcontrol]
      exact .unit hunit h
    next hcontrol => exact .plain hc.1 hc.2 (by omega) h

/-- Every text has a literal: the one that is written for it. -/
theorem spells_flatMap_escape (text : List Char) : Spells (text.flatMap escape) text := by
  induction text with
  | nil => exact .nil
  | cons c text ih => exact .append_escape c ih

theorem decode_quote (s : String) : decode (quote s) = .ok (.str s) := by
  rw [quote, (spells_flatMap_escape s.toList).decode_literal, String.ofList_toList]

end SmithyGen.Json
