import SmithyGen.Proofs.Idl.Declared
import SmithyGen.Proofs.Interchange
import SmithyGen.Proofs.ReferenceSpelling

namespace SmithyGen

namespace Logged

variable {α β : Type} {p : Fault → Prop}

/-- Every fault that a computation can end with is of a kind. -/
def FaultsIn (p : Fault → Prop) (x : Logged α) : Prop := ∀ e, x.result = .error e → p e

/-- Every fault that a computation ends with is a reported one, or one of a kind. -/
def FailsOnly (p : Fault → Prop) (x : Logged α) : Prop :=
  ∀ e, x.result = .error e → e.isReported = true ∨ p e

theorem faultsIn_of_isOk {x : Logged α} (h : ∃ a, x.result = .ok a) : x.FaultsIn p := by
  obtain ⟨a, ha⟩ := h
  intro e he
  rw [ha] at he
  cases he

theorem FaultsIn.bind {x : Logged α} {f : α → Logged β} (hx : x.FaultsIn p)
    (hf : ∀ a, x.result = .ok a → (f a).FaultsIn p) : (x >>= f).FaultsIn p := by
  obtain ⟨notices, result⟩ := x
  cases result with
  | error e =>
    intro e' he
    obtain rfl : e = e' := Except.error.inj he
    exact hx e rfl
  | ok a => exact hf a rfl

/-- The fault that a computation ends with. -/
def fault? (x : Logged α) : Option Fault :=
  match x.result with
  | .ok _ => none
  | .error e => some e

theorem fault?_eq_some {x : Logged α} {e : Fault} : x.fault? = some e ↔ x.result = .error e := by
  unfold fault?
  split
  next h => simp [h]
  next h => simp [h]

end Logged

namespace Build

open Logged

variable {references : ReferencePolicy} {p : Fault → Prop}

/-- The `http` trait of an operation leads to a fault of a value's type: its status code is
infinite, or its URI is no text. -/
def BreaksBinding (http : Value) : Fault → Prop
  | .overflow => ∃ negative,
      Value.field (http.entries?.getD []) "code" = .float (.infinite negative)
  | .wrongType =>
      (Value.field (http.entries?.getD []) "uri").truthy = true
        ∧ (Value.field (http.entries?.getD []) "uri").str? = none
  | _ => False

theorem eq_of_elim_eq_error {α : Type} {o : Option α} {f e : Fault}
    (h : o.elim (.error f) Except.ok = .error e) : f = e := by
  cases o with
  | none => exact Except.error.inj h
  | some a => cases h

theorem statusCode_fails {operation : String} {raw : Value} {e : Fault}
    (h : statusCode operation raw = .error e) :
    (∃ literal, e = .statusCode Prelude.httpTrait operation literal)
      ∨ e = .overflow ∧ ∃ negative, raw = .float (.infinite negative) := by
  simp only [statusCode] at h
  split at h
  next => cases h
  next => cases h
  next negative heq =>
    obtain rfl := Except.error.inj h
    refine Or.inr ⟨rfl, negative, ?_⟩
    -- the default is no infinity, so the value itself is
    unfold Value.orElse at heq
    split_ifs at heq
    exact heq
  next =>
    obtain rfl := eq_of_elim_eq_error h
    exact Or.inl ⟨_, rfl⟩
  next =>
    obtain rfl := eq_of_elim_eq_error h
    exact Or.inl ⟨_, rfl⟩
  next =>
    obtain rfl := Except.error.inj h
    exact Or.inl ⟨_, rfl⟩

theorem httpBinding_fails {operation : String} {http : Value} {input : Option Shape} {e : Fault}
    (h : httpBinding operation http input = .error e) :
    (∃ literal, e = .statusCode Prelude.httpTrait operation literal) ∨ BreaksBinding http e := by
  simp only [httpBinding] at h
  rcases Outcome.bind_eq_error.mp h with hcode | ⟨code, -, h⟩
  · exact (statusCode_fails hcode).imp_right fun ⟨he, hinfinite⟩ => he ▸ hinfinite
  right
  split at h
  next => cases h
  next huri =>
    obtain rfl := Except.error.inj h
    unfold Value.orElse at huri
    split_ifs at huri with htruthy
    · refine ⟨htruthy, ?_⟩
      unfold Value.str?
      split
      next s hs => exact absurd hs (huri s)
      next => rfl
    · exact absurd rfl (huri "/")

section References

variable (hmeet : ∀ d, (references.meet d).FaultsIn p)

include hmeet

theorem operationShape_faultsIn (all : List Shape) (id : String) (ref : Value) :
    (operationShape references all id ref).FaultsIn p := by
  unfold operationShape
  split
  · exact faultsIn_of_isOk ⟨none, rfl⟩
  · split_ifs
    · exact faultsIn_of_isOk ⟨none, rfl⟩
    · split
      · exact faultsIn_of_isOk ⟨_, rfl⟩
      · exact (hmeet _).bind fun _ _ => faultsIn_of_isOk ⟨_, rfl⟩

theorem operationShapes_faultsIn (all : List Shape) (id : String) (refs : List Value) :
    (operationShapes references all id refs).FaultsIn p := by
  induction refs with
  | nil => exact faultsIn_of_isOk ⟨[], rfl⟩
  | cons ref refs ih =>
    refine (operationShape_faultsIn hmeet all id ref).bind fun _ _ => ?_
    exact ih.bind fun _ _ => faultsIn_of_isOk ⟨_, rfl⟩

theorem checkMembers_faultsIn (all : List Shape) (s : Shape) (ms : List Member) :
    (checkMembers references all s ms).FaultsIn p := by
  induction ms with
  | nil => exact faultsIn_of_isOk ⟨(), rfl⟩
  | cons m ms ih =>
    unfold checkMembers
    split_ifs
    · exact ih
    · exact (hmeet _).bind fun _ _ => ih

theorem checkTargets_faultsIn (all ss : List Shape) :
    (checkTargets references all ss).FaultsIn p := by
  induction ss with
  | nil => exact faultsIn_of_isOk ⟨(), rfl⟩
  | cons s ss ih => exact (checkMembers_faultsIn hmeet all s s.members).bind fun _ _ => ih

end References

theorem namespaceOf_fails {metadata shapes : Entries Value} {e : Fault}
    (h : namespaceOf metadata (.map shapes) = .error e) : e.isReported = true := by
  have hitems : itemsOf (.map shapes) = .ok (shapes.map fun entry => .str entry.1) := by
    cases shapes <;> rfl
  unfold namespaceOf at h
  split at h
  next => cases h
  next =>
    rw [hitems] at h
    cases shapes with
    | nil =>
      obtain rfl := Except.error.inj h
      rfl
    | cons entry shapes =>
      change namespaceOfFirst (.str entry.1) = .error e at h
      simp only [namespaceOfFirst] at h
      split_ifs at h
      obtain rfl := Except.error.inj h
      rfl

end Build

section Documents

def Idl.Declared.entries (d : Idl.Declared) : Entries Value :=
  d.shape.fields ++ [("traits", .map d.traits)]

def Idl.Ast.raw (a : Idl.Ast) : Entries Value := a.shapes.map fun (k, d) => (k, d.toValue)

/-- The operations that a shape lists, where it is a service. -/
def Idl.Shape.operations : Idl.Shape → List String
  | .service _ operations _ => operations
  | _ => []

namespace Idl.Declared

theorem field_traits (d : Declared) : Value.field d.entries "traits" = .map d.traits := by
  obtain ⟨shape, traits⟩ := d
  cases shape <;> rfl

theorem field_type (d : Declared) : ∃ s, Value.field d.entries "type" = .str s := by
  obtain ⟨shape, traits⟩ := d
  cases shape <;> exact ⟨_, rfl⟩

theorem entriesOf_members (d : Declared) :
    Build.entriesOf (Value.field d.entries "members")
      = .ok (d.shape.members.map fun (k, m) => (k, m.toValue)) := by
  obtain ⟨shape, traits⟩ := d
  cases shape with
  | struct ms => exact Build.entriesOf_map _
  | union ms => exact Build.entriesOf_map _
  | list ms => exact Build.entriesOf_map _
  | map ms => exact Build.entriesOf_map _
  | _ => rfl

theorem itemsOf_operations (d : Declared) :
    Build.itemsOf (Value.field d.entries "operations") = .ok (d.shape.operations.map .str) := by
  obtain ⟨shape, traits⟩ := d
  cases shape with
  | service => exact Build.itemsOf_list _
  | _ => rfl

theorem itemsOf_errors (d : Declared) :
    ∃ refs, Build.itemsOf (Value.field d.entries "errors") = .ok refs := by
  obtain ⟨shape, traits⟩ := d
  cases shape with
  | service => exact ⟨_, Build.itemsOf_list _⟩
  | operation => exact ⟨_, Build.itemsOf_list _⟩
  | _ => exact ⟨[], rfl⟩

end Idl.Declared

theorem Idl.Ast.checkShapes_raw (a : Idl.Ast) : Interchange.checkShapes a.raw = .ok () := by
  rw [Interchange.checkShapes_eq_ok_iff]
  intro entry hentry
  obtain ⟨⟨_, d⟩, -, rfl⟩ := List.mem_map.mp hentry
  exact ⟨d.entries, rfl⟩

theorem Idl.Ast.exists_declared {a : Idl.Ast} {id : String} {es : Entries Value}
    (h : (id, .map es) ∈ a.raw) : ∃ d, (id, d) ∈ a.shapes ∧ es = d.entries := by
  obtain ⟨⟨_, d⟩, hmem, heq⟩ := List.mem_map.mp h
  obtain ⟨rfl, hes⟩ := Prod.mk.inj heq
  exact ⟨d, hmem, (Value.map.inj hes).symm⟩

/-- A reference of a text that leads anywhere leads to what is declared under its name. -/
theorem Idl.Ast.declared_of_reference {a : Idl.Ast} {ref id : String} {v : Value}
    (h : (Prelude.reference? (.str ref)).bind (fun id => (a.raw.get? id).map (id, ·))
      = some (id, v)) : id = ref ∧ ∃ d, (id, d) ∈ a.shapes ∧ v = .map d.entries := by
  obtain ⟨ref', href, h⟩ := Option.bind_eq_some_iff.mp h
  obtain ⟨v', hv, h⟩ := Option.map_eq_some_iff.mp h
  obtain ⟨rfl, rfl⟩ := Prod.mk.inj h
  have hid : ref' = ref := by
    change Prelude.nonEmpty? ref = some ref' at href
    unfold Prelude.nonEmpty? at href
    split_ifs at href
    exact (Option.some.inj href).symm
  obtain ⟨⟨_, d⟩, hd, he⟩ := List.mem_map.mp (Entries.mem_of_get? hv)
  obtain ⟨rfl, rfl⟩ := Prod.mk.inj he
  exact ⟨hid, d, hd, rfl⟩

end Documents

namespace Build

open Logged Outcome

variable {references : ReferencePolicy} {a : Idl.Ast}

theorem members_isOk (ms : Entries Idl.Member) :
    ∃ xs, members (ms.map fun (k, m) => (k, m.toValue)) = .ok xs := by
  induction ms with
  | nil => exact ⟨[], rfl⟩
  | cons entry ms ih =>
    obtain ⟨k, m⟩ := entry
    obtain ⟨xs, hxs⟩ := ih
    have hm : ∃ x, member k m.toValue = .ok x := by
      refine Outcome.bind_isOk ⟨m.traits, entriesOf_map _⟩ fun traits => ⟨_, rfl⟩
    exact Outcome.bind_isOk hm fun x => ⟨x :: xs, Outcome.bind_eq_ok.mpr ⟨xs, hxs, rfl⟩⟩

theorem shapeType_isOk (id s : String) : ∃ t, (shapeType id (.str s)).result = .ok t := by
  unfold shapeType
  split_ifs
  · exact ⟨_, rfl⟩
  · split
    next h => cases h
    next h => cases h
    next => exact ⟨_, rfl⟩
    next =>
      split
      next t _ => exact ⟨t, rfl⟩
      next => exact ⟨.document, rfl⟩

theorem shape_isOk (id : String) (d : Idl.Declared) : ∃ s, (shape id d.toValue).result = .ok s := by
  obtain ⟨typeName, htype⟩ := d.field_type
  obtain ⟨type, htype'⟩ := shapeType_isOk id typeName
  obtain ⟨ms, hms⟩ := members_isOk d.shape.members
  change ∃ s, (shape id (.map d.entries)).result = .ok s
  simp only [shape, htype, d.entriesOf_members, hms, d.field_traits, entriesOf_map, lift_ok_bind]
  exact ⟨_, result_bind_eq_ok.mpr ⟨type, htype', rfl⟩⟩

theorem shapes_isOk (a : Idl.Ast) : ∃ ss, (shapes a.raw).result = .ok ss := by
  unfold Idl.Ast.raw
  induction a.shapes with
  | nil => exact ⟨[], rfl⟩
  | cons entry ds ih =>
    obtain ⟨s, hs⟩ := shape_isOk entry.1 entry.2
    obtain ⟨ss, hss⟩ := ih
    exact ⟨s :: ss, result_bind_eq_ok.mpr ⟨s, hs, result_bind_eq_ok.mpr ⟨ss, hss, rfl⟩⟩⟩

section Faults

variable {p : Fault → Prop} (hmeet : ∀ d, (references.meet d).FaultsIn p)

include hmeet

theorem operation_faultsIn (all : List Shape) {id : String} {d : Idl.Declared}
    (hhttp : ∀ input e, httpBinding id (Value.field d.traits Prelude.httpTrait) input = .error e →
      p e) :
    (operation references all id d.entries).FaultsIn p := by
  obtain ⟨refs, hrefs⟩ := d.itemsOf_errors
  simp only [operation, hrefs, d.field_traits, entriesOf_map, lift_ok_bind]
  refine (operationShape_faultsIn hmeet all id _).bind fun input _ => ?_
  refine (operationShape_faultsIn hmeet all id _).bind fun _ _ => ?_
  refine (operationShapes_faultsIn hmeet all id refs).bind fun _ _ => ?_
  have hbinding : (liftM (httpBinding id (Value.field d.traits Prelude.httpTrait) input) :
      Logged HttpBinding).FaultsIn p := hhttp input
  exact hbinding.bind fun _ _ => faultsIn_of_isOk ⟨_, rfl⟩

def BindingFaultsIn (p : Fault → Prop) (a : Idl.Ast) (ids : List String) : Prop :=
  ∀ id ∈ ids, ∀ d, (id, d) ∈ a.shapes → ∀ input e,
    httpBinding id (Value.field d.traits Prelude.httpTrait) input = .error e → p e

theorem operations_faultsIn (all : List Shape) (service : String) {ids : List String}
    (hhttp : BindingFaultsIn p a ids) :
    (operations references all a.raw service (ids.map .str)).FaultsIn p := by
  induction ids with
  | nil => exact faultsIn_of_isOk ⟨[], rfl⟩
  | cons ref ids ih =>
    have hrest := ih fun id hid => hhttp id (List.mem_cons_of_mem _ hid)
    simp only [List.map_cons, operations]
    split
    next id es hfound =>
      obtain ⟨rfl, d, hd, hes⟩ := Idl.Ast.declared_of_reference hfound
      obtain rfl := Value.map.inj hes
      refine (operation_faultsIn hmeet all (hhttp id (by simp) d hd)).bind fun _ _ => ?_
      exact hrest.bind fun _ _ => faultsIn_of_isOk ⟨_, rfl⟩
    next found hmap hfound =>
      -- what a text declares is always a map
      obtain ⟨id, v⟩ := found
      obtain ⟨-, d, -, rfl⟩ := Idl.Ast.declared_of_reference hfound
      exact (hmap id d.entries rfl).elim
    next => exact (hmeet _).bind fun _ _ => hrest

theorem service_faultsIn (all : List Shape) (ns : String)
    (hhttp : ∀ id s, (id, s) ∈ a.shapes → BindingFaultsIn p a s.shape.operations) :
    (service references all a.raw ns).FaultsIn p := by
  unfold service
  split
  next id es hfind =>
    obtain ⟨s, hs, rfl⟩ := Idl.Ast.exists_declared (List.mem_of_find?_eq_some hfind)
    obtain ⟨errors, herrors⟩ := s.itemsOf_errors
    simp only [s.field_traits, s.itemsOf_operations, herrors, entriesOf_map, lift_ok_bind]
    refine (operations_faultsIn hmeet all id (hhttp id s hs)).bind fun _ _ => ?_
    exact faultsIn_of_isOk ⟨_, rfl⟩
  next => exact faultsIn_of_isOk ⟨none, rfl⟩

/-- The model of a text can only fail at its namespace, at a reference that leads nowhere, or at the
`http` trait of an operation that a service lists. -/
theorem build_faultsIn
    (hnamespace : ∀ e, namespaceOf [("namespace", .str a.ns)] (.map a.raw) = .error e → p e)
    (hhttp : ∀ id s, (id, s) ∈ a.shapes → BindingFaultsIn p a s.shape.operations) :
    (Model.build references a.toValue).FaultsIn p := by
  have hshapes : sectionOf a.toValue "shapes" = .ok (.map a.raw) :=
    congrArg Except.ok (orElse_map a.raw)
  have hmetadata : sectionOf a.toValue "metadata" = .ok (.map [("namespace", .str a.ns)]) := rfl
  simp only [Model.build, hshapes, hmetadata, entriesOf_map, lift_ok_bind]
  have hnamespace' : (liftM (namespaceOf [("namespace", .str a.ns)] (.map a.raw)) :
      Logged String).FaultsIn p := hnamespace
  refine hnamespace'.bind fun ns _ => ?_
  refine (faultsIn_of_isOk (shapes_isOk a)).bind fun all _ => ?_
  refine (checkTargets_faultsIn hmeet all all).bind fun _ _ => ?_
  refine (service_faultsIn hmeet all ns hhttp).bind fun _ _ => ?_
  exact faultsIn_of_isOk ⟨_, rfl⟩

end Faults

def BreaksBindingOf (a : Idl.Ast) (ids : List String) (e : Fault) : Prop :=
  ∃ id ∈ ids, ∃ d, (id, d) ∈ a.shapes
    ∧ BreaksBinding (Value.field d.traits Prelude.httpTrait) e

def BreaksService (a : Idl.Ast) (e : Fault) : Prop :=
  ∃ id s, (id, s) ∈ a.shapes ∧ BreaksBindingOf a s.shape.operations e

/-- The model of a text can be built, but for what is reported and for the `http` trait of an
operation that a service lists. -/
theorem build_failsOnly (hreferences : references ≠ .unset) (a : Idl.Ast) :
    (Model.build references a.toValue).FailsOnly (BreaksService a) := by
  refine build_faultsIn ?_ (fun e he => Or.inl (namespaceOf_fails he)) ?_
  · intro d e he
    cases references with
    | lenient => cases he
    | strict =>
      obtain rfl := Except.error.inj he
      exact Or.inl rfl
    | unset => exact absurd rfl hreferences
  · intro id s hs op hop d hd input e he
    rcases httpBinding_fails he with ⟨literal, rfl⟩ | hbreaks
    · exact Or.inl rfl
    · exact Or.inr ⟨id, s, hs, op, hop, d, hd, hbreaks⟩

end Build

namespace Idl

variable {policy : RequiredPolicy}

/-- A text gives a model or a reported fault, unless a service lists an operation whose `http` trait
has an infinite status code or a URI that is no text. -/
theorem read_build_result {references : Build.ReferencePolicy}
    (hpolicy : ∀ typeName, policy ≠ .unset typeName) (hreferences : references ≠ .unset)
    (file text : String) :
    ∃ a, (read policy file text).result = .ok a
      ∧ ((∃ m, (read policy file text >>= fun a => Model.build references a.toValue).result = .ok m)
        ∨ ∃ e, (read policy file text >>= fun a => Model.build references a.toValue).result
            = .error e
          ∧ (e.isReported = true ∨ Build.BreaksService a e)) := by
  obtain ⟨a, ha⟩ := read_isOk hpolicy file text
  have hresult : (read policy file text >>= fun a => Model.build references a.toValue).result
      = (Model.build references a.toValue).result := by
    rcases hread : read policy file text with ⟨notices, result⟩
    rw [hread] at ha
    obtain rfl : result = .ok a := ha
    rfl
  refine ⟨a, ha, ?_⟩
  rw [hresult]
  cases hbuild : (Model.build references a.toValue).result with
  | ok m => exact Or.inl ⟨m, rfl⟩
  | error e => exact Or.inr ⟨e, rfl, Build.build_failsOnly hreferences a e hbuild⟩

/-- An operation whose status code reads as a number, but is infinite. -/
def infiniteCodeText : String :=
  "namespace blog\nservice Blog \x7b operations: [Get] \x7d\n"
    ++ "@http(method: \"GET\", uri: \"/\", code: inf)\noperation Get \x7b \x7d\n"

def numericUriText : String :=
  "namespace blog\nservice Blog \x7b operations: [Get] \x7d\n"
    ++ "@http(method: \"GET\", uri: 5)\noperation Get \x7b \x7d\n"

theorem read_build_infiniteCode :
    (∀ typeName, RequiredPolicy.exact ≠ .unset typeName) ∧ Build.ReferencePolicy.strict ≠ .unset
      ∧ ∃ a, (read .exact "<string>" infiniteCodeText).result = .ok a
        ∧ Build.BreaksService a .overflow := by
  have hpolicy : ∀ typeName, RequiredPolicy.exact ≠ .unset typeName := by simp
  have hreferences : Build.ReferencePolicy.strict ≠ .unset := by simp
  have hoverflow : (read .exact "<string>" infiniteCodeText >>= fun a =>
      Model.build .strict a.toValue).result = .error .overflow := by
    rw [← Logged.fault?_eq_some]
    decide +kernel
  refine ⟨hpolicy, hreferences, ?_⟩
  obtain ⟨a, ha, ⟨m, hm⟩ | ⟨e, he, hfault⟩⟩ :=
    read_build_result hpolicy hreferences "<string>" infiniteCodeText
  · rw [hoverflow] at hm
    cases hm
  · obtain rfl := Except.error.inj (hoverflow.symm.trans he)
    exact ⟨a, ha, hfault.resolve_left (by decide)⟩

/-- Neither fault is one that the generator reports. -/
theorem read_build_unreported :
    (read .heuristic "<string>" infiniteCodeText >>= fun a =>
      Model.build .lenient a.toValue).result = .error .overflow
    ∧ (read .heuristic "<string>" numericUriText >>= fun a =>
      Model.build .lenient a.toValue).result = .error .wrongType
    ∧ Fault.isReported .overflow = false ∧ Fault.isReported .wrongType = false := by
  refine ⟨?_, ?_, rfl, rfl⟩
  · rw [← Logged.fault?_eq_some]
    decide +kernel
  · rw [← Logged.fault?_eq_some]
    decide +kernel

end Idl

end SmithyGen
