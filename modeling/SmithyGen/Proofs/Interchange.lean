import SmithyGen.Interchange
import SmithyGen.Proofs.Entries
import SmithyGen.Proofs.Outcome

namespace SmithyGen.Interchange

theorem checkShapes_eq_ok_iff {es : Entries Value} :
    checkShapes es = .ok () ↔ ∀ entry ∈ es, ∃ fields, entry.2 = .map fields := by
  induction es with
  | nil => simp [checkShapes]
  | cons entry es ih =>
    obtain ⟨id, v⟩ := entry
    cases v with
    | map fields => simp [checkShapes, ih]
    | _ => simp [checkShapes]

/-- A document in the form of a union is accepted if its shapes are maps. -/
theorem check_union {shapes : Entries Value} (h : checkShapes shapes = .ok ()) (version : Value)
    (metadata : Entries Value) :
    check (.map [("smithy", version), ("shapes", .map shapes), ("metadata", .map metadata)])
      = .ok ⟨shapes, metadata, some version⟩ := by
  change (checkShapes shapes >>= fun _ => Except.ok _) = _
  rw [h]
  rfl

theorem check_toValue {d : Interchange} (h : checkShapes d.shapes = .ok ()) :
    check d.toValue = .ok d := by
  obtain ⟨shapes, metadata, version⟩ := d
  cases version with
  | none =>
    change (checkShapes shapes >>= fun _ => Except.ok _) = _
    rw [h]
    rfl
  | some version =>
    change (checkShapes shapes >>= fun _ => Except.ok _) = _
    rw [h]
    rfl

theorem checkShapes_of_check {v : Value} {d : Interchange} (h : check v = .ok d) :
    checkShapes d.shapes = .ok () := by
  cases v with
  | map es =>
    obtain ⟨shapes, -, h⟩ := Outcome.bind_eq_ok.mp h
    obtain ⟨metadata, -, h⟩ := Outcome.bind_eq_ok.mp h
    obtain ⟨_, hshapes, h⟩ := Outcome.bind_eq_ok.mp h
    obtain rfl := Except.ok.inj h
    exact hshapes
  | _ => cases h

theorem addShapes_isOk (file : String) (es : Entries Value) (u : Union) :
    ∃ u', (u.addShapes file es).result = .ok u' ∧ u'.shapes = u.shapes.insertAll es := by
  induction es generalizing u with
  | nil => exact ⟨u, rfl, rfl⟩
  | cons entry es ih =>
    obtain ⟨id, shape⟩ := entry
    obtain ⟨u', hu', hshapes⟩ :=
      ih { u with shapes := u.shapes.insert id shape, origins := u.origins.insert id file }
    refine ⟨u', ?_, hshapes⟩
    unfold Union.addShapes
    cases u.origins.get? id with
    | some earlier =>
      simp only
      exact Outcome.result_bind_eq_ok.mpr ⟨(), rfl, hu'⟩
    | none => exact hu'

end SmithyGen.Interchange
