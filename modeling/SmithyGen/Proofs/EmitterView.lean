import SmithyGen.Generate

namespace SmithyGen

def Shape.bare (s : Shape) : Shape := { s with members := [] }

def Resolved.bare (r : Resolved) : Resolved := { r with shape := r.shape.bare }

def Operation.bare (o : Operation) : Operation :=
  { o with output := o.output.map Shape.bare, errors := o.errors.map Shape.bare }

def Service.bare (s : Service) : Service := { s with operations := s.operations.map Operation.bare }

def Model.bare (m : Model) : Model :=
  { m with shapes := m.shapes.map Shape.bare, service := m.service.map Service.bare }

theorem lookup?_bare (shapes : List Shape) (id : String) :
    Shape.lookup? (shapes.map Shape.bare) id = (Shape.lookup? shapes id).map Shape.bare := by
  unfold Shape.lookup?
  rw [List.find?_map]
  rfl

theorem bare_of_builtinShape? {id : String} {s : Shape} (h : builtinShape? id = some s) :
    s.bare = s := by
  unfold builtinShape? at h
  obtain ⟨typeName, -, h⟩ := Option.bind_eq_some_iff.mp h
  obtain ⟨type, -, rfl⟩ := Option.map_eq_some_iff.mp h
  rfl

theorem resolve_bare (shapes : List Shape) (id : Option String) :
    resolve (shapes.map Shape.bare) id = (resolve shapes id).bare := by
  have hlookup : (id.bind Prelude.nonEmpty?).bind (Shape.lookup? (shapes.map Shape.bare))
      = ((id.bind Prelude.nonEmpty?).bind (Shape.lookup? shapes)).map Shape.bare := by
    cases id.bind Prelude.nonEmpty? with
    | none => rfl
    | some id => exact lookup?_bare shapes id
  unfold resolve
  rw [hlookup]
  cases (id.bind Prelude.nonEmpty?).bind (Shape.lookup? shapes) with
  | some s => rfl
  | none =>
    cases hb : id.bind builtinShape? with
    | none => rfl
    | some s =>
      obtain ⟨id, -, hs⟩ := Option.bind_eq_some_iff.mp hb
      simp only [Option.map_none, Resolved.bare, bare_of_builtinShape? hs]

theorem Resolved.kind_bare (r : Resolved) : r.bare.kind = r.kind := rfl

namespace Emit

theorem typeFrom_bare (shapes : List Shape) (left : Nat) (target : Option String) :
    typeFrom (shapes.map Shape.bare) left target = typeFrom shapes left target := by
  -- A type goes down the element targets of lists and maps, which stand beside their members.
  induction left generalizing target with
  | zero => rfl
  | succ left ih =>
    simp only [typeFrom, resolve_bare, Resolved.kind_bare, ih]
    rfl

theorem ofMember_bare (shapes : List Shape) :
    Types.FieldPlan.ofMember (shapes.map Shape.bare) = Types.FieldPlan.ofMember shapes := by
  funext m
  simp only [Types.FieldPlan.ofMember, typeExpr, typeFrom_bare, resolve_bare, Resolved.kind_bare]

theorem constraint?_bare (shapes : List Shape) (m : Member) (id : String) :
    m.constraint? (shapes.map Shape.bare) id = m.constraint? shapes id := by
  simp only [Member.constraint?, resolve_bare]
  rfl

theorem rules_bare (shapes : List Shape) (s : Shape) :
    s.rules (shapes.map Shape.bare) = s.rules shapes := by
  simp only [Shape.rules, Member.rules, constraint?_bare]

theorem Types.document_bare (shapes : List Shape) (o : Options) (s : Shape) :
    Types.document (shapes.map Shape.bare) o s = Types.document shapes o s := by
  simp only [Types.document, ofMember_bare, rules_bare]

theorem Types.artifacts_congr {m m' : Model} (hbare : m.bare = m'.bare)
    (hstructures : m.structures = m'.structures) (o : Options) :
    Types.artifacts m o = Types.artifacts m' o := by
  have hshapes : m.shapes.map Shape.bare = m'.shapes.map Shape.bare := congrArg Model.shapes hbare
  have hdocument : Types.document m.shapes o = Types.document m'.shapes o := by
    funext s
    rw [← Types.document_bare m.shapes, hshapes, Types.document_bare]
  unfold Types.artifacts Types.artifact
  rw [hstructures, hdocument]

theorem addType_bare (s : Option Shape) (i : Imports) :
    addType (s.map Shape.bare) i = addType s i := by
  cases s <;> rfl

theorem addTypes_bare (s : Service) (i : Imports) : addTypes s.bare i = addTypes s i := by
  simp only [addTypes, Service.bare, List.foldl_map, Operation.bare, addType_bare]

theorem outputType_bare (o : Operation) : outputType o.bare = outputType o := by
  simp only [outputType, Operation.bare]
  cases o.output <;> rfl

theorem contractMethod_bare (o : Operation) :
    Server.contractMethod o.bare = Server.contractMethod o := by
  simp only [Server.contractMethod, outputType_bare]
  rfl

theorem memberLines_bare (shapes : List Shape) (o : Operation) :
    Server.memberLines (shapes.map Shape.bare) o.bare = Server.memberLines shapes o := by
  funext m
  simp only [Server.memberLines, resolve_bare, Resolved.kind_bare]
  rfl

theorem handlerMethod_bare (shapes : List Shape) (o : Operation) :
    Server.handlerMethod (shapes.map Shape.bare) o.bare = Server.handlerMethod shapes o := by
  have hinput : Server.inputLines (shapes.map Shape.bare) o.bare = Server.inputLines shapes o := by
    simp only [Server.inputLines, Server.decodeLines, memberLines_bare]
    rfl
  have houtput : o.bare.output.isSome = o.output.isSome := Option.isSome_map
  simp only [Server.handlerMethod, Server.handlerBody, hinput, houtput]
  rfl

theorem callMethod_bare (o : Operation) : Client.callMethod o.bare = Client.callMethod o := by
  have hresult : Client.resultLines o.bare = Client.resultLines o := by
    simp only [Client.resultLines, Operation.bare]
    cases o.output <;> rfl
  simp only [Client.callMethod, Client.callBody, hresult, outputType_bare]
  rfl

theorem contract_bare (o : Options) (s : Service) :
    Server.contract o s.bare = Server.contract o s := by
  have hmethods : s.bare.operations.map Server.contractMethod
      = s.operations.map Server.contractMethod := by
    simp only [Service.bare, List.map_map]
    exact List.map_congr_left fun o _ => contractMethod_bare o
  simp only [Server.contract, addTypes_bare, hmethods]
  rfl

theorem handlers_bare (o : Options) (shapes : List Shape) (appName : Value) (s : Service) :
    Server.handlers o (shapes.map Shape.bare) appName s.bare
      = Server.handlers o shapes appName s := by
  have hmethods : s.bare.operations.map (Server.handlerMethod (shapes.map Shape.bare))
      = s.operations.map (Server.handlerMethod shapes) := by
    simp only [Service.bare, List.map_map]
    exact List.map_congr_left fun o _ => handlerMethod_bare shapes o
  have himports (i : Imports) : s.bare.operations.foldl (fun i o => addType o.input i) i
      = s.operations.foldl (fun i o => addType o.input i) i := by
    simp only [Service.bare, List.foldl_map]
    rfl
  simp only [Server.handlers, hmethods, himports]
  rfl

theorem routes_bare (o : Options) (s : Service) : Server.routes o s.bare = Server.routes o s := by
  have hroutes : s.bare.operations.map Server.routeLine = s.operations.map Server.routeLine := by
    simp only [Service.bare, List.map_map]
    rfl
  simp only [Server.routes, hroutes]
  rfl

theorem client_bare (o : Options) (appName : String) (s : Service) :
    Client.client o appName s.bare = Client.client o appName s := by
  have hmethods : s.bare.operations.map Client.callMethod = s.operations.map Client.callMethod := by
    simp only [Service.bare, List.map_map]
    exact List.map_congr_left fun o _ => callMethod_bare o
  simp only [Client.client, addTypes_bare, hmethods]
  rfl

theorem Server.artifacts_bare (m : Model) (o : Options) :
    Server.artifacts m.bare o = Server.artifacts m o := by
  unfold Server.artifacts Model.bare
  cases m.service with
  | none => rfl
  | some s => simp only [Option.map_some, contract_bare, handlers_bare, routes_bare]

theorem Client.artifacts_bare (m : Model) (o : Options) :
    Client.artifacts m.bare o = Client.artifacts m o := by
  unfold Client.artifacts Model.bare
  cases m.service with
  | none => rfl
  | some s => simp only [Option.map_some, client_bare]

end Emit

/-- Two models that differ in no structure, in no operation input and otherwise in members only give
the same artifacts. -/
theorem Part.artifacts_congr {m m' : Model} (hbare : m.bare = m'.bare)
    (hstructures : m.structures = m'.structures) (p : Part) (o : Emit.Options) :
    p.artifacts m o = p.artifacts m' o := by
  cases p with
  | types => exact Emit.Types.artifacts_congr hbare hstructures o
  | server =>
    change Emit.Server.artifacts m o = Emit.Server.artifacts m' o
    rw [← Emit.Server.artifacts_bare m, hbare, Emit.Server.artifacts_bare]
  | client =>
    change Emit.Client.artifacts m o = Emit.Client.artifacts m' o
    rw [← Emit.Client.artifacts_bare m, hbare, Emit.Client.artifacts_bare]

end SmithyGen
