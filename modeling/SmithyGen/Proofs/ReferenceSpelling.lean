import Mathlib.Data.List.Forall2
import Mathlib.Data.Option.Basic
import SmithyGen.Model.Build

namespace SmithyGen

/-- A reference to an id, bare or as the target of a map. -/
inductive Spells (id : String) : Value → Prop
  | bare : Spells id (.str id)
  | targeted : Spells id (.map [("target", .str id)])

inductive SameReference : Value → Value → Prop
  | same (v : Value) : SameReference v v
  | spelled {id : String} {v w : Value} : Spells id v → Spells id w → SameReference v w

/-- Entries under the same keys in the same order, related key by key. -/
def SameEntries (R : String → Value → Value → Prop) : Entries Value → Entries Value → Prop :=
  List.Forall₂ fun a b => a.1 = b.1 ∧ R a.1 a.2 b.2

/-- One value, or two lists of references that differ in their spelling. -/
inductive SameReferences : Value → Value → Prop
  | same (v : Value) : SameReferences v v
  | items {xs ys : List Value} : List.Forall₂ SameReference xs ys →
    SameReferences (.list xs) (.list ys)

/-- One value, or members without traits that differ in the spelling of their targets. -/
inductive SameMembers : Value → Value → Prop
  | same (v : Value) : SameMembers v v
  | members {es es' : Entries Value} : SameEntries (fun _ => SameReference) es es' →
    SameMembers (.map es) (.map es')

/-- What the fields of a raw shape may differ in: those that hold references, in their spelling. -/
def SameField (key : String) : Value → Value → Prop :=
  if key ∈ ["target", "member", "value", "input", "output"] then SameReference
  else if key ∈ ["operations", "errors"] then SameReferences
  else if key = "members" then SameMembers
  else Eq

inductive SameShape : Value → Value → Prop
  | same (v : Value) : SameShape v v
  | fields {es es' : Entries Value} : SameEntries SameField es es' → SameShape (.map es) (.map es')

/-- Two documents that are equal but for their shapes, which stand under the same ids in the same
order and are related one by one. -/
inductive SameButShapes (R : String → Value → Value → Prop) : Value → Value → Prop
  | same (v : Value) : SameButShapes R v v
  | shapes {es es' raw raw' : Entries Value} :
    (∀ key, key ≠ "shapes" → Value.field es key = Value.field es' key) →
    Value.field es "shapes" = .map raw → Value.field es' "shapes" = .map raw' →
    SameEntries R raw raw' → SameButShapes R (.map es) (.map es')

/-- Two documents that differ in the spelling of references only. -/
def SameButSpelling : Value → Value → Prop := SameButShapes fun _ => SameShape

theorem reference?_eq_of_spells {id : String} {v : Value} (h : Spells id v) :
    Prelude.reference? v = Prelude.nonEmpty? id := by
  cases h <;> rfl

theorem SameReference.reference?_eq {v w : Value} (h : SameReference v w) :
    Prelude.reference? v = Prelude.reference? w := by
  cases h with
  | same => rfl
  | spelled hv hw => rw [reference?_eq_of_spells hv, reference?_eq_of_spells hw]

theorem rel_cases {α : Type} {R : α → α → Prop} {a b : Option α} (h : Option.Rel R a b) :
    (a = none ∧ b = none) ∨ ∃ v w, a = some v ∧ b = some w ∧ R v w := by
  cases h with
  | none => exact Or.inl ⟨rfl, rfl⟩
  | some h => exact Or.inr ⟨_, _, rfl, rfl, h⟩

namespace SameEntries

variable {R : String → Value → Value → Prop} {es es' : Entries Value}

theorem get? (h : SameEntries R es es') (key : String) :
    Option.Rel (R key) (es.get? key) (es'.get? key) := by
  induction h with
  | nil => exact .none
  | @cons a b es es' hab _ ih =>
    obtain ⟨k, v⟩ := a
    obtain ⟨k', w⟩ := b
    obtain ⟨rfl, hvalue⟩ := hab
    simp only [Entries.get?, List.lookup_cons] at ih ⊢
    by_cases hk : key = k
    · subst hk
      simpa using Option.Rel.some hvalue
    · have hne : (key == k) = false := by simpa using hk
      rw [hne]
      exact ih

theorem field (hR : ∀ key, R key .null .null) (h : SameEntries R es es') (key : String) :
    R key (Value.field es key) (Value.field es' key) := by
  unfold Value.field
  obtain ⟨hv, hw⟩ | ⟨v, w, hv, hw, hvw⟩ := rel_cases (h.get? key)
  · rw [hv, hw]
    exact hR key
  · rw [hv, hw]
    exact hvw

theorem keys_eq (h : SameEntries R es es') : es.keys = es'.keys := by
  induction h with
  | nil => rfl
  | cons hab _ ih => exact congrArg₂ List.cons hab.1 ih

end SameEntries

theorem sameField_refl (key : String) (v : Value) : SameField key v v := by
  unfold SameField
  split_ifs
  · exact .same v
  · exact .same v
  · exact .same v
  · rfl

theorem SameEntries.fieldOf {es es' : Entries Value} (h : SameEntries SameField es es')
    (key : String) : SameField key (Value.field es key) (Value.field es' key) :=
  h.field (fun key => sameField_refl key .null) key

namespace Build

open Prelude

/-- A map or list stands for itself also where it is empty. -/
theorem orElse_map (es : Entries Value) : (Value.map es).orElse (.map []) = .map es := by
  cases es <;> rfl

theorem orElse_list (xs : List Value) : (Value.list xs).orElse (.list []) = .list xs := by
  cases xs <;> rfl

theorem entriesOf_map (es : Entries Value) : entriesOf (.map es) = .ok es := by
  rw [entriesOf, orElse_map]

theorem itemsOf_list (xs : List Value) : itemsOf (.list xs) = .ok xs := by
  rw [itemsOf, orElse_list]

theorem itemsOf_sameReferences {v w : Value} (h : SameReferences v w) :
    (∃ xs ys, itemsOf v = .ok xs ∧ itemsOf w = .ok ys ∧ List.Forall₂ SameReference xs ys)
      ∨ ∃ e, itemsOf v = .error e ∧ itemsOf w = .error e := by
  cases h with
  | items hxy => exact Or.inl ⟨_, _, itemsOf_list _, itemsOf_list _, hxy⟩
  | same v =>
    cases hv : itemsOf v with
    | error e => exact Or.inr ⟨e, rfl, rfl⟩
    | ok xs =>
      exact Or.inl ⟨xs, xs, rfl, rfl, List.forall₂_same.mpr fun x _ => .same x⟩

theorem member_of_spells (name : String) {id : String} {v : Value} (h : Spells id v) :
    member name v = .ok { name, target := id } := by
  have hid : (nonEmpty? id).getD "" = id := by
    unfold nonEmpty?
    split_ifs with he
    · simpa using he.symm
    · rfl
  cases h with
  | bare =>
    change Except.ok (Member.mk name ((nonEmpty? id).getD "") none [] none) = _
    rw [hid]
  | targeted =>
    change Except.ok (Member.mk name ((nonEmpty? id).getD "") none [] none) = _
    rw [hid]

theorem member_congr (name : String) {v w : Value} (h : SameReference v w) :
    member name v = member name w := by
  cases h with
  | same => rfl
  | spelled hv hw => rw [member_of_spells name hv, member_of_spells name hw]

theorem members_congr {es es' : Entries Value} (h : SameEntries (fun _ => SameReference) es es') :
    members es = members es' := by
  induction h with
  | nil => rfl
  | @cons a b es es' hab _ ih =>
    obtain ⟨name, v⟩ := a
    obtain ⟨name', w⟩ := b
    obtain ⟨rfl, hvw⟩ := hab
    simp only [members, member_congr name hvw, ih]

theorem entriesOf_members_congr {v w : Value} (h : SameMembers v w) :
    (entriesOf v >>= members) = (entriesOf w >>= members) := by
  cases h with
  | same => rfl
  | members hes =>
    rw [entriesOf_map, entriesOf_map]
    exact members_congr hes

theorem elementTarget_congr (type : ShapeType) {es es' : Entries Value}
    (h : SameEntries SameField es es') (ms : List Member) :
    elementTarget type es ms = elementTarget type es' ms := by
  have htarget : reference? (Value.field es "target") = reference? (Value.field es' "target") :=
    (h.fieldOf "target").reference?_eq
  have hmember : reference? (Value.field es "member") = reference? (Value.field es' "member") :=
    (h.fieldOf "member").reference?_eq
  have hvalue : reference? (Value.field es "value") = reference? (Value.field es' "value") :=
    (h.fieldOf "value").reference?_eq
  simp only [elementTarget, htarget, hmember, hvalue]

theorem lift_ok_bind {α β : Type} (a : α) (f : α → Logged β) :
    (liftM (Except.ok a : Except Fault α) >>= f : Logged β) = f a := rfl

theorem lift_bind {α β γ : Type} (x : Except Fault α) (f : α → Except Fault β)
    (g : β → Logged γ) :
    (liftM x >>= fun a => liftM (f a) >>= g : Logged γ) = liftM (x >>= f) >>= g := by
  cases x <;> rfl

theorem shape_congr (id : String) {v w : Value} (h : SameShape v w) : shape id v = shape id w := by
  cases h with
  | same => rfl
  | @fields es es' h =>
    have htype : Value.field es "type" = Value.field es' "type" := h.fieldOf "type"
    have htraits : Value.field es "traits" = Value.field es' "traits" := h.fieldOf "traits"
    have henum : Value.field es "enum" = Value.field es' "enum" := h.fieldOf "enum"
    have hmembers := entriesOf_members_congr (h.fieldOf "members")
    simp only [shape, htype, htraits, henum, elementTarget_congr _ h, lift_bind, hmembers]

theorem shapes_congr {raw raw' : Entries Value} (h : SameEntries (fun _ => SameShape) raw raw') :
    shapes raw = shapes raw' := by
  induction h with
  | nil => rfl
  | @cons a b raw raw' hab _ ih =>
    obtain ⟨id, v⟩ := a
    obtain ⟨id', w⟩ := b
    obtain ⟨rfl, hvw⟩ := hab
    simp only [shapes, shape_congr id hvw, ih]

section Service

variable (policy : ReferencePolicy) (all : List Shape)

theorem operationShape_congr (operation : String) {v w : Value} (h : SameReference v w) :
    operationShape policy all operation v = operationShape policy all operation w := by
  simp only [operationShape, h.reference?_eq]

theorem operationShapes_congr (operation : String) {refs refs' : List Value}
    (h : List.Forall₂ SameReference refs refs') :
    operationShapes policy all operation refs = operationShapes policy all operation refs' := by
  induction h with
  | nil => rfl
  | cons href _ ih =>
    simp only [operationShapes, operationShape_congr policy all operation href, ih]

/-- Going through references does the same for two spellings where each use of them does. -/
theorem itemsOf_bind_congr {β : Type} {v w : Value} (h : SameReferences v w)
    {f g : List Value → Logged β}
    (hfg : ∀ {refs refs'}, List.Forall₂ SameReference refs refs' → f refs = g refs') :
    (liftM (itemsOf v) >>= f : Logged β) = liftM (itemsOf w) >>= g := by
  obtain ⟨xs, ys, hv, hw, hxy⟩ | ⟨e, hv, hw⟩ := itemsOf_sameReferences h
  · rw [hv, hw]
    exact hfg hxy
  · rw [hv, hw]
    rfl

theorem operation_congr (id : String) {es es' : Entries Value} (h : SameEntries SameField es es') :
    operation policy all id es = operation policy all id es' := by
  have htraits : Value.field es "traits" = Value.field es' "traits" := h.fieldOf "traits"
  have hinput := operationShape_congr policy all id (h.fieldOf "input")
  have houtput := operationShape_congr policy all id (h.fieldOf "output")
  unfold operation
  rw [htraits]
  refine bind_congr fun traits => ?_
  rw [hinput]
  refine bind_congr fun input => ?_
  rw [houtput]
  refine bind_congr fun output => ?_
  refine itemsOf_bind_congr (h.fieldOf "errors") fun href => ?_
  rw [operationShapes_congr policy all id href]

theorem operations_congr {raw raw' : Entries Value} (h : SameEntries (fun _ => SameShape) raw raw')
    (service : String) {refs refs' : List Value} (hrefs : List.Forall₂ SameReference refs refs') :
    operations policy all raw service refs = operations policy all raw' service refs' := by
  induction hrefs with
  | nil => rfl
  | @cons ref ref' refs refs' href _ ih =>
    simp only [operations, href.reference?_eq]
    cases reference? ref' with
    | none => simp only [Option.bind_none, ih]
    | some id =>
      -- the shape of the operation may be spelled otherwise, too
      simp only [Option.bind_some]
      obtain ⟨hv, hw⟩ | ⟨v, w, hv, hw, hvw⟩ := rel_cases (h.get? id)
      · simp only [hv, hw, Option.map_none, ih]
      · rw [hv, hw]
        cases hvw with
        | same => cases v <;> simp only [Option.map_some, ih]
        | fields hes => simp only [Option.map_some, operation_congr policy all id hes, ih]

theorem filterMap_reference?_congr {refs refs' : List Value}
    (h : List.Forall₂ SameReference refs refs') :
    refs.filterMap reference? = refs'.filterMap reference? := by
  induction h with
  | nil => rfl
  | cons href _ ih => simp only [List.filterMap_cons, href.reference?_eq, ih]

theorem isServiceEntry_congr (id : String) {v w : Value} (h : SameShape v w) :
    isServiceEntry (id, v) = isServiceEntry (id, w) := by
  cases h with
  | same => rfl
  | @fields es es' h =>
    have htype : Value.field es "type" = Value.field es' "type" := h.fieldOf "type"
    simp only [isServiceEntry, htype]

theorem find?_isServiceEntry {raw raw' : Entries Value}
    (h : SameEntries (fun _ => SameShape) raw raw') :
    (raw.find? isServiceEntry = none ∧ raw'.find? isServiceEntry = none)
      ∨ ∃ id v w, raw.find? isServiceEntry = some (id, v) ∧ raw'.find? isServiceEntry = some (id, w)
        ∧ SameShape v w := by
  induction h with
  | nil => exact Or.inl ⟨rfl, rfl⟩
  | @cons a b raw raw' hab _ ih =>
    obtain ⟨id, v⟩ := a
    obtain ⟨id', w⟩ := b
    obtain ⟨rfl, hvw⟩ := hab
    simp only [List.find?_cons, isServiceEntry_congr id hvw]
    cases isServiceEntry (id, w) with
    | true => exact Or.inr ⟨id, v, w, rfl, rfl, hvw⟩
    | false => exact ih

theorem service_congr {raw raw' : Entries Value} (h : SameEntries (fun _ => SameShape) raw raw')
    (ns : String) : service policy all raw ns = service policy all raw' ns := by
  unfold service
  obtain ⟨hnone, hnone'⟩ | ⟨id, v, w, hv, hw, hvw⟩ := find?_isServiceEntry h
  · rw [hnone, hnone']
  · rw [hv, hw]
    -- Two maps are spellings of one another by their fields, also where they are the same map.
    obtain rfl | ⟨es, es', rfl, rfl, hes⟩ : v = w ∨ ∃ es es', v = .map es ∧ w = .map es'
        ∧ SameEntries SameField es es' := by
      cases hvw with
      | same => exact Or.inl rfl
      | fields hes => exact Or.inr ⟨_, _, rfl, rfl, hes⟩
    · cases v with
      | map es =>
        refine bind_congr fun traits => bind_congr fun refs => ?_
        rw [operations_congr policy all h id (List.forall₂_same.mpr fun x _ => .same x)]
      | _ => rfl
    · have htraits : Value.field es "traits" = Value.field es' "traits" := hes.fieldOf "traits"
      have hversion : Value.field es "version" = Value.field es' "version" := hes.fieldOf "version"
      dsimp only
      rw [htraits, hversion]
      refine bind_congr fun traits => ?_
      refine itemsOf_bind_congr (hes.fieldOf "operations") fun hrefs => ?_
      rw [operations_congr policy all h id hrefs]
      refine bind_congr fun os => ?_
      refine itemsOf_bind_congr (hes.fieldOf "errors") fun hrefs => ?_
      rw [filterMap_reference?_congr hrefs]

end Service

theorem namespaceOf_congr (metadata : Entries Value) {raw raw' : Entries Value}
    (h : raw.keys = raw'.keys) :
    namespaceOf metadata (.map raw) = namespaceOf metadata (.map raw') := by
  have hitems : ∀ es : Entries Value, itemsOf (.map es) = .ok (es.keys.map .str) := by
    intro es
    cases es with
    | nil => rfl
    | cons entry es => simp [itemsOf, Value.orElse, Value.truthy, Entries.keys]
  simp only [namespaceOf, hitems, h]

theorem build_congr (policy : ReferencePolicy) {doc doc' : Value} (h : SameButSpelling doc doc') :
    Model.build policy doc = Model.build policy doc' := by
  cases h with
  | same => rfl
  | @shapes es es' raw raw' hother hshapes hshapes' hraw =>
    have hmetadata : Value.field es "metadata" = Value.field es' "metadata" :=
      hother "metadata" (by decide)
    simp only [Model.build, sectionOf, hshapes, hshapes', hmetadata, orElse_map, lift_ok_bind,
      namespaceOf_congr _ hraw.keys_eq, entriesOf_map, shapes_congr hraw,
      service_congr policy _ hraw]

end Build

end SmithyGen
