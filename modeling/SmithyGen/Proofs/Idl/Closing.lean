import Mathlib.Computability.Language
import SmithyGen.Idl.Lexeme

namespace SmithyGen.Idl

open scoped Computability

def oneOf (p : Char → Prop) : Language Char := {cs | ∃ c, p c ∧ cs = [c]}

def stringChars : Language Char :=
  (oneOf (fun c => c ≠ '"' ∧ c ≠ '\\') + oneOf (· = '\\') * oneOf (· ≠ '\n'))∗

def stringLiteral : Language Char := oneOf (· = '"') * stringChars * oneOf (· = '"')

section Pattern

variable {p : Char → Prop} {c : Char} {cs : List Char} {l : Language Char}

theorem cons_mem_oneOf_mul_iff : c :: cs ∈ oneOf p * l ↔ p c ∧ cs ∈ l := by
  rw [Language.mem_mul]
  constructor
  · rintro ⟨_, ⟨d, hd, rfl⟩, rest, hrest, heq⟩
    obtain ⟨rfl, rfl⟩ := List.cons.inj heq
    exact ⟨hd, hrest⟩
  · rintro ⟨hc, hcs⟩
    exact ⟨[c], ⟨c, hc, rfl⟩, cs, hcs, rfl⟩

theorem nil_notMem_oneOf_mul : [] ∉ oneOf p * l := by
  rw [Language.mem_mul]
  rintro ⟨_, ⟨d, -, rfl⟩, rest, -, heq⟩
  cases heq

theorem stringChars_mul (l : Language Char) :
    stringChars * l = l + (oneOf (fun c => c ≠ '"' ∧ c ≠ '\\') * (stringChars * l)
      + oneOf (· = '\\') * (oneOf (· ≠ '\n') * (stringChars * l))) := by
  conv_lhs => rw [stringChars, ← Language.one_add_self_mul_kstar_eq_kstar]
  simp only [add_mul, one_mul, mul_assoc]
  rfl

end Pattern

/-- Text up to a closing character, with characters that are refused where they stand outside of
string literals. -/
structure Enclosure where
  close : Char
  refused : Char → Bool
  close_ne_quote : close ≠ '"'
  quote_allowed : refused '"' = false

namespace Enclosure

def block : Enclosure := ⟨'\x7d', fun _ => false, by decide, rfl⟩

def traitArguments : Enclosure := ⟨')', (· == '('), by decide, rfl⟩

variable (e : Enclosure)

/-- String literals and other characters, as many as there are. -/
def pattern : Language Char :=
  (stringLiteral + oneOf fun c => c ≠ '"' ∧ c ≠ e.close ∧ e.refused c = false)∗

/-- A text that the pattern allows, and the closing character after it. -/
structure Matches (cs text rest : List Char) : Prop where
  split : cs = text ++ e.close :: rest
  mem : text ∈ e.pattern

/-- The scanner fails on what is refused, and on a line feed after a backslash. -/
def fails (place : Place) (c : Char) : Bool :=
  place == .outside && e.refused c || place == .escaped && c == '\n'

def after : Place → List Char → Option Place
  | place, [] => some place
  | place, c :: cs => if e.fails place c then none else after (place.next c) cs

/-- After `text`, and not before, the scanner meets the closing character outside of string
literals. -/
structure ClosesAfter (cs text rest : List Char) : Prop where
  split : cs = text ++ e.close :: rest
  outside : e.after .outside text = some .outside
  first : ∀ front back, text = front ++ e.close :: back → e.after .outside front ≠ some .outside

/-- What the pattern takes yet where the scanner stands at a place. -/
def remaining : Place → Language Char
  | .outside => e.pattern
  | .inString => stringChars * (oneOf (· = '"') * e.pattern)
  | .escaped => oneOf (· ≠ '\n') * (stringChars * (oneOf (· = '"') * e.pattern))

theorem pattern_eq :
    e.pattern = 1 + (oneOf (· = '"') * e.remaining .inString
      + oneOf (fun c => c ≠ '"' ∧ c ≠ e.close ∧ e.refused c = false) * e.pattern) := by
  calc e.pattern
      = 1 + (stringLiteral + oneOf fun c => c ≠ '"' ∧ c ≠ e.close ∧ e.refused c = false)
          * e.pattern := (Language.one_add_self_mul_kstar_eq_kstar _).symm
    _ = _ := by
      rw [add_mul, stringLiteral, mul_assoc, mul_assoc]
      rfl

variable {e} {place : Place} {c : Char} {cs text rest : List Char}

theorem nil_mem_remaining_iff : [] ∈ e.remaining place ↔ place = .outside := by
  cases place with
  | outside => exact iff_of_true (Language.nil_mem_kstar _) rfl
  | inString =>
    refine iff_of_false ?_ (by simp)
    rw [remaining, stringChars_mul]
    rintro (hnil | hnil | hnil) <;> exact nil_notMem_oneOf_mul hnil
  | escaped => exact iff_of_false nil_notMem_oneOf_mul (by simp)

theorem cons_mem_remaining_iff :
    c :: cs ∈ e.remaining place
      ↔ ¬ (place = .outside ∧ c = e.close) ∧ e.fails place c = false
        ∧ cs ∈ e.remaining (place.next c) := by
  cases place with
  | outside =>
    rw [remaining, pattern_eq]
    simp only [Language.mem_add, Language.mem_one, cons_mem_oneOf_mul_iff]
    by_cases hc : c = '"'
    · have hclose := e.close_ne_quote
      have hallowed := e.quote_allowed
      simp [hc, fails, Place.next, hclose.symm, hallowed]
    · simp [hc, fails, Place.next, remaining, and_assoc]
  | inString =>
    rw [remaining, stringChars_mul]
    simp only [Language.mem_add, cons_mem_oneOf_mul_iff]
    by_cases hquote : c = '"'
    · simp [hquote, fails, Place.next, remaining]
    · by_cases hslash : c = '\\'
      · simp [hslash, fails, Place.next, remaining]
      · simp [hquote, hslash, fails, Place.next, remaining]
  | escaped =>
    rw [remaining, cons_mem_oneOf_mul_iff]
    simp [fails, Place.next, remaining]

/-- A text is taken exactly where the scanner comes out of it outside, with no closing character met
outside on its way. -/
theorem mem_remaining_iff :
    text ∈ e.remaining place
      ↔ e.after place text = some .outside
        ∧ ∀ front back, text = front ++ e.close :: back → e.after place front ≠ some .outside := by
  induction text generalizing place with
  | nil => simp [nil_mem_remaining_iff, after]
  | cons c text ih =>
    rw [cons_mem_remaining_iff, ih, after]
    cases hfails : e.fails place c with
    | true => simp
    | false =>
      simp only [Bool.false_eq_true, if_false, true_and]
      constructor
      · rintro ⟨hopen, hafter, hfirst⟩
        refine ⟨hafter, ?_⟩
        rintro (_ | ⟨d, front⟩) back heq
        · obtain ⟨rfl, -⟩ := List.cons.inj heq
          simpa [after] using hopen
        · obtain ⟨rfl, htext⟩ := List.cons.inj heq
          simpa [after, hfails] using hfirst front back htext
      · rintro ⟨hafter, hfirst⟩
        refine ⟨?_, hafter, fun front back heq => ?_⟩
        · rintro ⟨rfl, rfl⟩
          exact hfirst [] text rfl rfl
        · simpa [after, hfails] using hfirst (c :: front) back (by rw [heq, List.cons_append])

theorem enclosedFrom_close (cs : List Char) :
    enclosedFrom e.close e.refused .outside (e.close :: cs) = some ([], cs) := by
  simp [enclosedFrom]

theorem enclosedFrom_cons (h : ¬ (place = .outside ∧ c = e.close)) (cs : List Char) :
    enclosedFrom e.close e.refused place (c :: cs) = if e.fails place c then none
      else (enclosedFrom e.close e.refused (place.next c) cs).map fun p => (c :: p.1, p.2) := by
  have hopen : (place == .outside && c == e.close) = false := by simpa using h
  rw [enclosedFrom, hopen]
  rfl

/-- The reader finds the texts that the pattern has before a closing character. -/
theorem enclosedFrom_eq_some_iff :
    enclosedFrom e.close e.refused place cs = some (text, rest)
      ↔ cs = text ++ e.close :: rest ∧ text ∈ e.remaining place := by
  induction cs generalizing place text with
  | nil => simp [enclosedFrom]
  | cons c cs ih =>
    by_cases hclose : place = .outside ∧ c = e.close
    · obtain ⟨rfl, rfl⟩ := hclose
      rw [enclosedFrom_close]
      cases text with
      | nil => simp [nil_mem_remaining_iff]
      | cons d text =>
        refine iff_of_false (by simp) ?_
        rintro ⟨hsplit, hmem⟩
        obtain ⟨rfl, -⟩ := List.cons.inj hsplit
        exact (cons_mem_remaining_iff.mp hmem).1 ⟨rfl, rfl⟩
    · rw [enclosedFrom_cons hclose]
      cases text with
      | nil =>
        refine iff_of_false (by split_ifs <;> simp) ?_
        rintro ⟨hsplit, hmem⟩
        exact hclose ⟨nil_mem_remaining_iff.mp hmem, (List.cons.inj hsplit).1⟩
      | cons d text =>
        constructor
        · intro h
          split_ifs at h with hfails
          obtain ⟨⟨text', rest'⟩, hnext, heq⟩ := Option.map_eq_some_iff.mp h
          obtain ⟨⟨rfl, rfl⟩, rfl⟩ : (c = d ∧ text' = text) ∧ rest' = rest := by simpa using heq
          obtain ⟨hsplit, hmem⟩ := ih.mp hnext
          exact ⟨by rw [hsplit, List.cons_append],
            cons_mem_remaining_iff.mpr ⟨hclose, by simpa using hfails, hmem⟩⟩
        · rintro ⟨hsplit, hmem⟩
          obtain ⟨rfl, hcs⟩ := List.cons.inj hsplit
          obtain ⟨-, hfails, hnext⟩ := cons_mem_remaining_iff.mp hmem
          rw [hfails, ih.mpr ⟨hcs, hnext⟩]
          rfl

theorem matches_iff_closesAfter : e.Matches cs text rest ↔ e.ClosesAfter cs text rest := by
  have hmem : text ∈ e.remaining .outside ↔ _ := mem_remaining_iff
  constructor
  · rintro ⟨hsplit, htext⟩
    obtain ⟨houtside, hfirst⟩ := hmem.mp htext
    exact ⟨hsplit, houtside, hfirst⟩
  · rintro ⟨hsplit, houtside, hfirst⟩
    exact ⟨hsplit, hmem.mpr ⟨houtside, hfirst⟩⟩

theorem enclosedFrom_eq_some_iff_matches :
    enclosedFrom e.close e.refused .outside cs = some (text, rest) ↔ e.Matches cs text rest :=
  enclosedFrom_eq_some_iff.trans ⟨fun h => ⟨h.1, h.2⟩, fun h => ⟨h.split, h.mem⟩⟩

/-- However its pattern is taken through a text, it comes to the end that the scanner finds there,
and to no other; and that is the text which was found. -/
structure EndsOnce (e : Enclosure) (cs : List Char) (found : Option (List Char × List Char)) :
    Prop where
  matches_iff : ∀ text rest, e.Matches cs text rest ↔ e.ClosesAfter cs text rest
  found_iff : ∀ text rest, found = some (text, rest) ↔ e.Matches cs text rest
  unique : ∀ text rest text' rest', e.Matches cs text rest → e.Matches cs text' rest' →
    text = text' ∧ rest = rest'

theorem endsOnce (e : Enclosure) (cs : List Char) :
    e.EndsOnce cs (enclosedFrom e.close e.refused .outside cs) := by
  refine ⟨fun _ _ => matches_iff_closesAfter, fun _ _ => enclosedFrom_eq_some_iff_matches, ?_⟩
  intro text rest text' rest' h h'
  have hfound := enclosedFrom_eq_some_iff_matches.mpr h
  have hfound' := enclosedFrom_eq_some_iff_matches.mpr h'
  simpa using hfound.symm.trans hfound'

end Enclosure

/-- Bodies and arguments end where the scanner says, and nowhere else. -/
theorem endsOnce_body_arguments (cs : List Char) :
    Enclosure.block.EndsOnce cs (body? cs)
      ∧ Enclosure.traitArguments.EndsOnce cs (arguments? cs) :=
  ⟨Enclosure.block.endsOnce cs, Enclosure.traitArguments.endsOnce cs⟩

example : body? "note: \"a \\\" \x7d b\" \x7d rest".toList
    = some ("note: \"a \\\" \x7d b\" ".toList, " rest".toList) := by
  decide

end SmithyGen.Idl
