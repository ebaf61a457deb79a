import SmithyGen.Json.Reader
import SmithyGen.Proofs.Entries
import SmithyGen.Proofs.Outcome

namespace SmithyGen

namespace Value

mutual

/-- Whether no map in a value has a key twice. -/
def hasDistinctKeys : Value → Bool
  | .list xs => allDistinctKeys xs
  | .map es => decide (Entries.keys es).Nodup && fieldsDistinctKeys es
  | _ => true
termination_by structural v => v

def allDistinctKeys : List Value → Bool
  | [] => true
  | v :: vs => hasDistinctKeys v && allDistinctKeys vs
termination_by structural vs => vs

def fieldsDistinctKeys : List (String × Value) → Bool
  | [] => true
  | (_, v) :: es => hasDistinctKeys v && fieldsDistinctKeys es
termination_by structural es => es

end

theorem fieldsDistinctKeys_iff (es : Entries Value) :
    fieldsDistinctKeys es = true ↔ ∀ entry ∈ es, hasDistinctKeys entry.2 = true := by
  induction es with
  | nil => simp [fieldsDistinctKeys]
  | cons entry es ih => simp [fieldsDistinctKeys, ih]

theorem hasDistinctKeys_map_iff (es : Entries Value) :
    hasDistinctKeys (.map es) = true
      ↔ es.keys.Nodup ∧ ∀ entry ∈ es, hasDistinctKeys entry.2 = true := by
  rw [hasDistinctKeys, Bool.and_eq_true, decide_eq_true_eq, fieldsDistinctKeys_iff]

theorem hasDistinctKeys_field {es : Entries Value} (h : hasDistinctKeys (.map es) = true)
    (key : String) : hasDistinctKeys (field es key) = true := by
  unfold field
  cases hv : es.get? key with
  | none => rfl
  | some v => exact ((hasDistinctKeys_map_iff es).mp h).2 _ (Entries.mem_of_get? hv)

end Value

namespace Json

open Outcome Value

theorem hasDistinctKeys_of_number {cs rest : List Char} {v : Value}
    (h : number cs = .ok (v, rest)) : v.hasDistinctKeys = true := by
  -- A number is an integer or a float on every path that gives one.
  unfold number at h
  split at h
  dsimp only at h
  split_ifs at h
  all_goals
    split at h
    all_goals
      first
        | obtain ⟨rfl, -⟩ := Prod.mk.inj (Except.ok.inj h)
          rfl
        | cases h

/-- No object that is read with so much fuel has a key twice. -/
structure ReadsDistinct (fuel : Nat) : Prop where
  value {cs v rest} (h : value fuel cs = .ok (v, rest)) : hasDistinctKeys v = true
  elements {cs vs rest} (h : elements fuel cs = .ok (vs, rest)) : allDistinctKeys vs = true
  fields {cs es rest} (h : fields fuel cs = .ok (es, rest)) : fieldsDistinctKeys es = true

namespace ReadsDistinct

variable {fuel : Nat} {cs rest : List Char}

/-- The members of an object may repeat a key: a later pair takes the place of an earlier one. -/
theorem value_succ (ih : ReadsDistinct fuel) {v : Value}
    (h : Json.value (fuel + 1) cs = .ok (v, rest)) : hasDistinctKeys v = true := by
  unfold Json.value at h
  split at h
  next =>
    obtain ⟨⟨s, _⟩, -, h⟩ := map_eq_ok.mp h
    obtain ⟨rfl, -⟩ := Prod.mk.inj h
    rfl
  next =>
    split at h
    next =>
      obtain ⟨rfl, -⟩ := Prod.mk.inj (Except.ok.inj h)
      rfl
    next =>
      obtain ⟨⟨es, _⟩, hes, h⟩ := map_eq_ok.mp h
      obtain ⟨rfl, -⟩ := Prod.mk.inj h
      have hall := (fieldsDistinctKeys_iff es).mp (ih.fields hes)
      refine (hasDistinctKeys_map_iff _).mpr ⟨Entries.nodup_keys_ofList es, ?_⟩
      exact fun entry hentry => hall entry (Entries.mem_of_mem_ofList hentry)
  next =>
    split at h
    next =>
      obtain ⟨rfl, -⟩ := Prod.mk.inj (Except.ok.inj h)
      rfl
    next =>
      obtain ⟨⟨vs, _⟩, hvs, h⟩ := map_eq_ok.mp h
      obtain ⟨rfl, -⟩ := Prod.mk.inj h
      exact ih.elements hvs
  all_goals first
    | obtain ⟨rfl, -⟩ := Prod.mk.inj (Except.ok.inj h)
      rfl
    | exact hasDistinctKeys_of_number h

theorem elements_succ (ih : ReadsDistinct fuel) {vs : List Value}
    (h : Json.elements (fuel + 1) cs = .ok (vs, rest)) : allDistinctKeys vs = true := by
  obtain ⟨⟨v, rest⟩, hv, h⟩ := bind_eq_ok.mp h
  dsimp only at h
  split at h
  next =>
    obtain ⟨rfl, -⟩ := Prod.mk.inj (Except.ok.inj h)
    simp [allDistinctKeys, ih.value hv]
  next =>
    obtain ⟨⟨vs, rest⟩, hvs, h⟩ := bind_eq_ok.mp h
    obtain ⟨rfl, -⟩ := Prod.mk.inj (Except.ok.inj h)
    simp [allDistinctKeys, ih.value hv, ih.elements hvs]
  next => cases h

theorem fields_succ (ih : ReadsDistinct fuel) {es : List (String × Value)}
    (h : Json.fields (fuel + 1) cs = .ok (es, rest)) : fieldsDistinctKeys es = true := by
  unfold Json.fields at h
  split at h
  next =>
    obtain ⟨⟨k, rest⟩, -, h⟩ := bind_eq_ok.mp h
    dsimp only at h
    split at h
    next =>
      obtain ⟨⟨v, rest⟩, hv, h⟩ := bind_eq_ok.mp h
      dsimp only at h
      split at h
      next =>
        obtain ⟨rfl, -⟩ := Prod.mk.inj (Except.ok.inj h)
        simp [fieldsDistinctKeys, ih.value hv]
      next =>
        obtain ⟨⟨es, rest⟩, hes, h⟩ := bind_eq_ok.mp h
        obtain ⟨rfl, -⟩ := Prod.mk.inj (Except.ok.inj h)
        simp [fieldsDistinctKeys, ih.value hv, ih.fields hes]
      next => cases h
    next => cases h
  next => cases h

end ReadsDistinct

theorem readsDistinct (fuel : Nat) : ReadsDistinct fuel := by
  induction fuel with
  | zero =>
    exact ⟨fun h => by simp [value] at h, fun h => by simp [elements] at h,
      fun h => by simp [fields] at h⟩
  | succ fuel ih => exact ⟨ih.value_succ, ih.elements_succ, ih.fields_succ⟩

theorem hasDistinctKeys_of_decode {text : String} {v : Value} (h : decode text = .ok v) :
    hasDistinctKeys v = true := by
  unfold decode at h
  cases hdoc : document text.toList with
  | error t =>
    rw [hdoc] at h
    cases h
  | ok w =>
    rw [hdoc] at h
    obtain rfl : w = v := Except.ok.inj h
    unfold document at hdoc
    split at hdoc
    next => cases hdoc
    next =>
      obtain ⟨⟨u, rest⟩, hu, hdoc⟩ := bind_eq_ok.mp hdoc
      dsimp only at hdoc
      split at hdoc
      next =>
        obtain rfl := Except.ok.inj hdoc
        exact (readsDistinct _).value hu
      next => cases hdoc

end Json

end SmithyGen
