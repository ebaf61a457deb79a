import SmithyGen.Logged
import SmithyGen.Model.Resolve
import SmithyGen.Text.Upper
import SmithyGen.UriTemplate
import SmithyGen.Value.Literal

namespace SmithyGen.Build

/-- What a reference that leads nowhere does: it is told and stood in for, or it ends the build. A
policy that was set to a value of some other type cannot be consulted. -/
inductive ReferencePolicy where
  | lenient
  | strict
  | unset
deriving DecidableEq, Repr

def ReferencePolicy.meet (policy : ReferencePolicy) (d : Dangling) : Logged Unit :=
  match policy with
  | .lenient => Logged.note (.dangling d)
  | .strict => Logged.fail (.dangling d.reference d.referencedBy)
  | .unset => Logged.fail .wrongType

/-- A value used as a map, where null and everything empty is an empty one. -/
def entriesOf (v : Value) : Except Fault (Entries Value) :=
  match v.orElse (.map []) with
  | .map es => .ok es
  | _ => .error .wrongType

/-- A value gone through from its start: the items of a list, the keys of a map, the characters of
a text. -/
def itemsOf (v : Value) : Except Fault (List Value) :=
  match v.orElse (.list []) with
  | .list xs => .ok xs
  | .map es => .ok (es.map fun (k, _) => .str k)
  | .str s => .ok (s.toList.map fun c => .str c.toString)
  | _ => .error .wrongType

def namespaceOfFirst : Value → Except Fault String
  | .str s =>
    let ns := Naming.shapeNamespace s
    if ns == "" then .error (.noNamespace (.firstShape (Text.quoted s))) else .ok ns
  | .list xs =>
    if xs.any fun v => v.str? == some "#" then .error .wrongType
    else .error (.noNamespace (.firstShape (Value.literal .plain (.list xs))))
  | .map es =>
    if Entries.contains "#" es then .error .wrongType
    else .error (.noNamespace (.firstShape (Value.literal .plain (.map es))))
  | _ => .error .wrongType

/-- From the metadata, else from the first shape id. -/
def namespaceOf (metadata : Entries Value) (shapes : Value) : Except Fault String :=
  match (Value.field metadata "namespace").str?.bind Prelude.nonEmpty? with
  | some ns => .ok ns
  | none => do
    match ← itemsOf shapes with
    | [] => .error (.noNamespace .noShapes)
    | first :: _ => namespaceOfFirst first

def documentationOf (traits : Entries Value) : Option String :=
  (Value.field traits Prelude.documentationTrait).str?

/-- No type means a structure, `set` is an old name of `list`, and an unknown type is a document. -/
def shapeType (id : String) (type : Value) : Logged ShapeType :=
  if !type.truthy then .ok .struct
  else match type with
    | .list _ | .map _ => Logged.fail .wrongType
    | .str "set" => .ok .list
    | _ =>
      match type.str?.bind ShapeType.ofName? with
      | some t => .ok t
      | none => do
        Logged.note (.unknownType id (Value.literal .plain type))
        return .document

/-- A member is a map with a target and traits, or a bare reference. -/
def member (name : String) (raw : Value) : Except Fault Member :=
  let target := (Prelude.reference? raw).getD ""
  match raw with
  | .map es => do
    let traits ← entriesOf (Value.field es "traits")
    let target := (Prelude.reference? (Value.field es "target")).getD ""
    return { name, target, binding := bindingOf traits, traits,
             documentation := documentationOf traits }
  | _ => .ok { name, target }

def members : Entries Value → Except Fault (List Member)
  | [] => .ok []
  | (name, raw) :: rest => do
    let m ← member name raw
    let ms ← members rest
    return m :: ms

/-- The target of the member that describes the elements. -/
def elementMember? (name : String) (ms : List Member) : Option String :=
  (ms.find? (·.name == name)).bind fun m => Prelude.nonEmpty? m.target

/-- The element target of a list or map: explicit, else given as one property, else by a member. -/
def elementTarget (type : ShapeType) (raw : Entries Value) (ms : List Member) : Option String :=
  let element := fun key =>
    (Prelude.reference? (Value.field raw key)).or (elementMember? key ms)
  (Prelude.reference? (Value.field raw "target")).or <|
    match type with
    | .list => element "member"
    | .map => element "value"
    | _ => none

def shape (id : String) (raw : Value) : Logged Shape :=
  match raw with
  | .map es => do
    let type ← shapeType id (Value.field es "type")
    let ms ← members (← entriesOf (Value.field es "members"))
    let traits ← entriesOf (Value.field es "traits")
    return { id, name := Naming.shapeName id, type, members := ms,
             target := elementTarget type es ms, enumValues := (Value.field es "enum").items?,
             traits, documentation := documentationOf traits }
  | _ => Logged.fail .wrongType

def shapes : Entries Value → Logged (List Shape)
  | [] => .ok []
  | (id, raw) :: rest => do
    let s ← shape id raw
    let ss ← shapes rest
    return s :: ss

def checkMembers (policy : ReferencePolicy) (all : List Shape) (s : Shape) :
    List Member → Logged Unit
  | [] => .ok ()
  | m :: ms => do
    if isResolvable all m.target then pure ()
    else policy.meet (.member s.id m.name m.target)
    checkMembers policy all s ms

def checkTargets (policy : ReferencePolicy) (all : List Shape) : List Shape → Logged Unit
  | [] => .ok ()
  | s :: ss => do
    checkMembers policy all s s.members
    checkTargets policy all ss

/-- The shape of an input, output or error; the unit shape is none. -/
def operationShape (policy : ReferencePolicy) (all : List Shape) (operation : String) (ref : Value) :
    Logged (Option Shape) :=
  match Prelude.reference? ref with
  | none => .ok none
  | some id =>
    if id == Prelude.unitShape then .ok none
    else match Shape.lookup? all id with
      | some s => .ok (some s)
      | none => do
        policy.meet (.operationShape operation id)
        return some { id, name := Naming.shapeName id, type := .struct }

def operationShapes (policy : ReferencePolicy) (all : List Shape) (operation : String) :
    List Value → Logged (List Shape)
  | [] => .ok []
  | ref :: refs => do
    let s ← operationShape policy all operation ref
    let ss ← operationShapes policy all operation refs
    return s.toList ++ ss

def statusCode (operation : String) (raw : Value) : Except Fault Int :=
  let refuse := Except.error (.statusCode Prelude.httpTrait operation (Value.literal .plain raw))
  match raw.orElse (.int 200) with
  | .int n => .ok n
  | .bool b => .ok (if b then 1 else 0)
  | .float (.infinite _) => .error .overflow
  | .float x => x.truncate?.elim refuse .ok
  | .str s => (Number.int? s.toList).elim refuse .ok
  | _ => refuse

def namesBoundTo (location : Location) (input : Option Shape) : List String :=
  ((input.elim [] (·.members)).filter (·.binding == some location)).map (·.name)

def httpBinding (operation : String) (raw : Value) (input : Option Shape) :
    Except Fault HttpBinding := do
  let es := raw.entries?.getD []
  let code ← statusCode operation (Value.field es "code")
  match (Value.field es "uri").orElse (.str "/") with
  | .str uri =>
    return {
      method := Text.upper (((Value.field es "method").orElse (.str "POST")).display .plain)
      uri
      code
      pathParams := UriTemplate.params uri
      queryParams := namesBoundTo .query input
      headerParams := namesBoundTo .header input }
  | _ => .error .wrongType

def operation (policy : ReferencePolicy) (all : List Shape) (id : String) (raw : Entries Value) :
    Logged Operation := do
  let traits ← entriesOf (Value.field raw "traits")
  let input ← operationShape policy all id (Value.field raw "input")
  let output ← operationShape policy all id (Value.field raw "output")
  let errors ← operationShapes policy all id (← itemsOf (Value.field raw "errors"))
  let http ← httpBinding id (Value.field traits Prelude.httpTrait) input
  return { id, name := Naming.shapeName id, input, output, errors, http, traits,
           documentation := documentationOf traits }

/-- The operations of a service in order; an unknown one is dropped. -/
def operations (policy : ReferencePolicy) (all : List Shape) (raw : Entries Value)
    (service : String) : List Value → Logged (List Operation)
  | [] => .ok []
  | ref :: refs => do
    let id := Prelude.reference? ref
    match id.bind fun id => (raw.get? id).map (id, ·) with
    | some (id, .map es) =>
      let o ← operation policy all id es
      let os ← operations policy all raw service refs
      return o :: os
    | some _ => Logged.fail .wrongType
    | none =>
      policy.meet (.operation service id)
      operations policy all raw service refs

def protocolOf (traits : Entries Value) : String :=
  (Prelude.protocols.find? fun p => traits.contains (Prelude.protocolTrait p)).getD "restJson1"

def isServiceEntry : String × Value → Bool
  | (_, .map es) => (Value.field es "type").str? == some "service"
  | _ => false

/-- The first service of the document. -/
def service (policy : ReferencePolicy) (all : List Shape) (raw : Entries Value) (ns : String) :
    Logged (Option Service) :=
  match raw.find? isServiceEntry with
  | some (id, .map es) => do
    let traits ← entriesOf (Value.field es "traits")
    let operations ← operations policy all raw id (← itemsOf (Value.field es "operations"))
    let errors ← itemsOf (Value.field es "errors")
    return some {
      id
      name := Naming.shapeName id
      version := (Value.field es "version").orElse (.str "1.0")
      ns := (Prelude.nonEmpty? (Naming.shapeNamespace id)).getD ns
      operations
      protocol := protocolOf traits
      errors := errors.filterMap Prelude.reference?
      traits
      documentation := documentationOf traits }
  | _ => .ok none

def sectionOf (doc : Value) (key : String) : Except Fault Value :=
  match doc with
  | .map es => .ok ((Value.field es key).orElse (.map []))
  | _ => .error .wrongType

end Build

open Build in
/-- The model of an interchange document. -/
def Model.build (policy : ReferencePolicy) (doc : Value) : Logged Model := do
  let rawShapes ← sectionOf doc "shapes"
  let metadata ← entriesOf (← sectionOf doc "metadata")
  let ns ← namespaceOf metadata rawShapes
  let raw ← entriesOf rawShapes
  let all ← Build.shapes raw
  checkTargets policy all all
  let service ← Build.service policy all raw ns
  Logged.note (.built ns all.length (service.map fun s => (s.name, s.operations.length)))
  return { ns, shapes := all, service, metadata }

end SmithyGen
