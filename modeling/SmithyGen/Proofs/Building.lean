import Mathlib.Data.List.Forall2
import SmithyGen.Model.Build
import SmithyGen.Proofs.Entries
import SmithyGen.Proofs.Outcome

namespace SmithyGen

theorem Shape.mem_of_lookup? {shapes : List Shape} {id : String} {s : Shape}
    (h : Shape.lookup? shapes id = some s) : s ∈ shapes ∧ s.id = id :=
  ⟨List.mem_of_find?_eq_some h, by simpa using List.find?_some h⟩

namespace Build

open Outcome

def rawShapes (doc : Value) : Except Fault (Entries Value) := do
  entriesOf (← sectionOf doc "shapes")

variable {policy : ReferencePolicy}

theorem build_cases {doc : Value} {m : Model} (h : (Model.build policy doc).result = .ok m) :
    ∃ raw, rawShapes doc = .ok raw ∧ (shapes raw).result = .ok m.shapes
      ∧ (checkTargets policy m.shapes m.shapes).result = .ok ()
      ∧ (service policy m.shapes raw m.ns).result = .ok m.service := by
  obtain ⟨rawSection, hsection, h⟩ := result_bind_eq_ok.mp h
  obtain ⟨_, -, h⟩ := result_bind_eq_ok.mp h
  obtain ⟨_, -, h⟩ := result_bind_eq_ok.mp h
  obtain ⟨ns, -, h⟩ := result_bind_eq_ok.mp h
  obtain ⟨raw, hraw, h⟩ := result_bind_eq_ok.mp h
  obtain ⟨all, hall, h⟩ := result_bind_eq_ok.mp h
  obtain ⟨⟨⟩, hcheck, h⟩ := result_bind_eq_ok.mp h
  obtain ⟨service?, hservice, h⟩ := result_bind_eq_ok.mp h
  obtain ⟨_, -, h⟩ := result_bind_eq_ok.mp h
  obtain rfl := Except.ok.inj h
  exact ⟨raw, bind_eq_ok.mpr ⟨rawSection, hsection, hraw⟩, hall, hcheck, hservice⟩

theorem forall₂_shapes {raw : Entries Value} {ss : List Shape} (h : (shapes raw).result = .ok ss) :
    List.Forall₂ (fun entry s => (shape entry.1 entry.2).result = .ok s) raw ss := by
  induction raw generalizing ss with
  | nil =>
    obtain rfl := Except.ok.inj h
    exact .nil
  | cons entry raw ih =>
    obtain ⟨s, hs, h⟩ := result_bind_eq_ok.mp h
    obtain ⟨rest, hrest, h⟩ := result_bind_eq_ok.mp h
    obtain rfl := Except.ok.inj h
    exact .cons hs (ih hrest)

theorem members_eq_mapM (es : Entries Value) :
    members es = es.mapM fun entry => member entry.1 entry.2 := by
  induction es with
  | nil => rfl
  | cons entry es ih => rw [members, List.mapM_cons, ih]

theorem member_name {name : String} {v : Value} {m : Member} (h : member name v = .ok m) :
    m.name = name := by
  unfold member at h
  split at h
  · obtain ⟨traits, -, h⟩ := bind_eq_ok.mp h
    obtain rfl := Except.ok.inj h
    rfl
  · obtain rfl := Except.ok.inj h
    rfl

theorem names_of_members {es : Entries Value} {ms : List Member} (h : members es = .ok ms) :
    ms.map (·.name) = es.keys := by
  rw [members_eq_mapM] at h
  exact map_of_mapM_eq_ok (fun _ _ => member_name) h

theorem shape_eq_ok_iff {id : String} {es : Entries Value} {s : Shape} :
    (shape id (.map es)).result = .ok s ↔
      ∃ type ms traits, (shapeType id (Value.field es "type")).result = .ok type
        ∧ (entriesOf (Value.field es "members") >>= members) = .ok ms
        ∧ entriesOf (Value.field es "traits") = .ok traits
        ∧ s = { id, name := Naming.shapeName id, type, members := ms,
                target := elementTarget type es ms, enumValues := (Value.field es "enum").items?,
                traits, documentation := documentationOf traits } := by
  constructor
  · intro h
    obtain ⟨type, htype, h⟩ := result_bind_eq_ok.mp h
    obtain ⟨raw, hraw, h⟩ := result_bind_eq_ok.mp h
    obtain ⟨ms, hms, h⟩ := result_bind_eq_ok.mp h
    obtain ⟨traits, htraits, h⟩ := result_bind_eq_ok.mp h
    obtain rfl := Except.ok.inj h
    exact ⟨type, ms, traits, htype, bind_eq_ok.mpr ⟨raw, hraw, hms⟩, htraits, rfl⟩
  · rintro ⟨type, ms, traits, htype, hms, htraits, rfl⟩
    obtain ⟨raw, hraw, hms⟩ := bind_eq_ok.mp hms
    refine result_bind_eq_ok.mpr ⟨type, htype, ?_⟩
    refine result_bind_eq_ok.mpr ⟨raw, hraw, ?_⟩
    refine result_bind_eq_ok.mpr ⟨ms, hms, ?_⟩
    exact result_bind_eq_ok.mpr ⟨traits, htraits, rfl⟩

theorem shape_cases {id : String} {raw : Value} {s : Shape} (h : (shape id raw).result = .ok s) :
    ∃ es, raw = .map es ∧ s.id = id ∧ s.name = Naming.shapeName id
      ∧ s.target = elementTarget s.type es s.members := by
  cases raw with
  | map es =>
    obtain ⟨_, _, _, -, -, -, rfl⟩ := shape_eq_ok_iff.mp h
    exact ⟨es, rfl, rfl, rfl, rfl⟩
  | _ => cases h

theorem exists_raw_of_mem {raw : Entries Value} {ss : List Shape}
    (h : (shapes raw).result = .ok ss) {s : Shape} (hs : s ∈ ss) :
    ∃ es, (s.id, .map es) ∈ raw ∧ s.target = elementTarget s.type es s.members := by
  obtain ⟨⟨id, v⟩, hentry, hshape⟩ := exists_left_of_forall₂ (forall₂_shapes h) hs
  obtain ⟨es, rfl, rfl, -, htarget⟩ := shape_cases hshape
  exact ⟨es, hentry, htarget⟩

theorem exists_shape_of_get? {raw : Entries Value} {ss : List Shape}
    (h : (shapes raw).result = .ok ss) {id : String} {v : Value} (hv : raw.get? id = some v) :
    ∃ s ∈ ss, s.id = id := by
  obtain ⟨s, hs, hshape⟩ := exists_right_of_forall₂ (forall₂_shapes h) (Entries.mem_of_get? hv)
  obtain ⟨-, -, hid, -⟩ := shape_cases hshape
  exact ⟨s, hs, hid⟩

/-- The id of the structure that an input, output or error names; the unit shape is none. -/
def structureId? (ref : Value) : Option String :=
  (Prelude.reference? ref).filter (· != Prelude.unitShape)

end Build

open Build Outcome

/-- All shapes that an operation names. -/
def Operation.shapes (o : Operation) : List Shape := o.input.toList ++ o.output.toList ++ o.errors

/-- A shape of the model, or an empty structure in the place of one that the model does not have. -/
def Shape.IsHeld (policy : ReferencePolicy) (all : List Shape) (s : Shape) : Prop :=
  lookup? all s.id = some s
    ∨ policy = .lenient ∧ lookup? all s.id = none ∧ s.type = .struct ∧ s.members = []

def Operation.HoldsNamed (es : Entries Value) (o : Operation) : Prop :=
  o.input.map (·.id) = structureId? (Value.field es "input")
    ∧ o.output.map (·.id) = structureId? (Value.field es "output")
    ∧ ∃ refs, itemsOf (Value.field es "errors") = .ok refs
      ∧ o.errors.map (·.id) = refs.filterMap structureId?

theorem Shape.IsHeld.mem_of_strict {all : List Shape} {s : Shape} (h : s.IsHeld .strict all) :
    s ∈ all := by
  rcases h with h | ⟨hpolicy, -⟩
  · exact (Shape.mem_of_lookup? h).1
  · cases hpolicy

namespace Build

variable {policy : ReferencePolicy} {all : List Shape}

theorem lenient_of_meet {d : Dangling} (h : (policy.meet d).result = .ok ()) :
    policy = .lenient := by
  cases policy with
  | lenient => rfl
  | strict => cases h
  | unset => cases h

theorem operationShape_cases {operation : String} {ref : Value} {s? : Option Shape}
    (h : (operationShape policy all operation ref).result = .ok s?) :
    s?.map (·.id) = structureId? ref ∧ ∀ s ∈ s?, s.IsHeld policy all := by
  unfold operationShape at h
  unfold structureId?
  split at h
  next hnone =>
    obtain rfl := Except.ok.inj h
    simp [hnone]
  next id hid =>
    rw [hid]
    split_ifs at h with hunit
    · obtain rfl := Except.ok.inj h
      simpa [Option.filter] using hunit
    · have hkept : (some id).filter (· != Prelude.unitShape) = some id := by
        simpa [Option.filter] using hunit
      split at h
      next s hs =>
        obtain rfl := Except.ok.inj h
        have hsid : s.id = id := (Shape.mem_of_lookup? hs).2
        refine ⟨by rw [hkept, Option.map_some, hsid], fun t ht => Or.inl ?_⟩
        obtain rfl := Option.some.inj ht
        rwa [hsid]
      next hnone =>
        obtain ⟨_, hmeet, h⟩ := result_bind_eq_ok.mp h
        obtain rfl := Except.ok.inj h
        refine ⟨hkept.symm, fun t ht => Or.inr ?_⟩
        obtain rfl := Option.some.inj ht
        exact ⟨lenient_of_meet hmeet, hnone, rfl, rfl⟩

theorem operationShapes_cases {operation : String} {refs : List Value} {ss : List Shape}
    (h : (operationShapes policy all operation refs).result = .ok ss) :
    ss.map (·.id) = refs.filterMap structureId? ∧ ∀ s ∈ ss, s.IsHeld policy all := by
  induction refs generalizing ss with
  | nil =>
    obtain rfl := Except.ok.inj h
    simp
  | cons ref refs ih =>
    obtain ⟨first, hfirst, h⟩ := result_bind_eq_ok.mp h
    obtain ⟨rest, hrest, h⟩ := result_bind_eq_ok.mp h
    obtain rfl := Except.ok.inj h
    obtain ⟨hid, hheld⟩ := operationShape_cases hfirst
    obtain ⟨hids, hrestHeld⟩ := ih hrest
    constructor
    · rw [List.map_append, hids, List.filterMap_cons, ← hid]
      cases first <;> rfl
    · intro s hs
      rcases List.mem_append.mp hs with hs | hs
      · exact hheld s (Option.mem_toList.mp hs)
      · exact hrestHeld s hs

theorem httpBinding_cases {operation : String} {raw : Value} {input : Option Shape}
    {http : HttpBinding} (h : httpBinding operation raw input = .ok http) :
    http.pathParams = UriTemplate.params http.uri
      ∧ http.queryParams = namesBoundTo .query input
      ∧ http.headerParams = namesBoundTo .header input := by
  obtain ⟨_, -, h⟩ := bind_eq_ok.mp h
  split at h
  · obtain rfl := Except.ok.inj h
    exact ⟨rfl, rfl, rfl⟩
  · cases h

/-- All that an operation takes from a raw one. -/
theorem operation_cases {id : String} {es : Entries Value} {o : Operation}
    (h : (operation policy all id es).result = .ok o) :
    o.id = id ∧ o.HoldsNamed es ∧ (∀ s ∈ o.shapes, s.IsHeld policy all)
      ∧ ∃ raw, httpBinding id raw o.input = .ok o.http := by
  obtain ⟨_, -, h⟩ := result_bind_eq_ok.mp h
  obtain ⟨input, hinput, h⟩ := result_bind_eq_ok.mp h
  obtain ⟨output, houtput, h⟩ := result_bind_eq_ok.mp h
  obtain ⟨refs, hrefs, h⟩ := result_bind_eq_ok.mp h
  obtain ⟨errors, herrors, h⟩ := result_bind_eq_ok.mp h
  obtain ⟨http, hhttp, h⟩ := result_bind_eq_ok.mp h
  obtain rfl := Except.ok.inj h
  obtain ⟨hin, hinHeld⟩ := operationShape_cases hinput
  obtain ⟨hout, houtHeld⟩ := operationShape_cases houtput
  obtain ⟨herr, herrHeld⟩ := operationShapes_cases herrors
  refine ⟨rfl, ⟨hin, hout, refs, hrefs, herr⟩, ?_, _, hhttp⟩
  intro s hs
  rcases List.mem_append.mp hs with hs | hs
  · rcases List.mem_append.mp hs with hs | hs
    · exact hinHeld s (Option.mem_toList.mp hs)
    · exact houtHeld s (Option.mem_toList.mp hs)
  · exact herrHeld s hs

/-- Every operation is built from the raw shape of its id. -/
theorem operations_cases {all : List Shape} {raw : Entries Value} {service : String}
    {refs : List Value} {os : List Operation}
    (h : (operations policy all raw service refs).result = .ok os) {o : Operation} (ho : o ∈ os) :
    ∃ es, raw.get? o.id = some (.map es) ∧ (operation policy all o.id es).result = .ok o := by
  induction refs generalizing os with
  | nil =>
    obtain rfl := Except.ok.inj h
    simp at ho
  | cons ref refs ih =>
    simp only [operations] at h
    split at h
    · next id es hid =>
      obtain ⟨o', ho', h⟩ := result_bind_eq_ok.mp h
      obtain ⟨os', hos', h⟩ := result_bind_eq_ok.mp h
      obtain rfl := Except.ok.inj h
      rcases List.mem_cons.mp ho with rfl | ho
      · obtain ⟨id', -, hget⟩ := Option.bind_eq_some_iff.mp hid
        obtain ⟨v, hv, heq⟩ := Option.map_eq_some_iff.mp hget
        obtain ⟨rfl, rfl⟩ := Prod.mk.inj heq
        obtain ⟨hoid, -⟩ := operation_cases ho'
        rw [hoid]
        exact ⟨es, hv, ho'⟩
      · exact ih hos' ho
    · exact absurd h (by simp [Logged.fail])
    · obtain ⟨-, -, h⟩ := result_bind_eq_ok.mp h
      exact ih h ho

theorem service_cases {all : List Shape} {raw : Entries Value} {ns : String} {s : Service}
    (h : (service policy all raw ns).result = .ok (some s)) :
    ∃ refs, (operations policy all raw s.id refs).result = .ok s.operations := by
  unfold service at h
  split at h
  · obtain ⟨traits, -, h⟩ := result_bind_eq_ok.mp h
    obtain ⟨refs, -, h⟩ := result_bind_eq_ok.mp h
    obtain ⟨os, hos, h⟩ := result_bind_eq_ok.mp h
    obtain ⟨errors, -, h⟩ := result_bind_eq_ok.mp h
    obtain rfl := Option.some.inj (Except.ok.inj h)
    exact ⟨refs, hos⟩
  · exact absurd h (by simp [Logged.ok])

end Build

end SmithyGen
