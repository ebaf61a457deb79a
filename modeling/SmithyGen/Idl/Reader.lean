import SmithyGen.Idl.Ast
import SmithyGen.Idl.Comment
import SmithyGen.Idl.Declaration
import SmithyGen.Logged

namespace SmithyGen.Idl

/-- Which members of a structure or union are required: those that carry the trait, or all as soon
as the trait is written anywhere in the block. A policy that was set to a value of some other type
cannot be consulted. -/
inductive RequiredPolicy where
  | exact
  | heuristic
  | unset (typeName : String)
deriving DecidableEq, Repr

def resolve (ns name : String) : String :=
  if name.toList.contains '#' then name
  else if Prelude.simpleNames.contains name then Prelude.id name
  else ns ++ "#" ++ name

def members (ns : String) (body : List Char) : Entries Member :=
  Entries.ofList ((member.all body).map fun w => (w.name, ⟨resolve ns w.target, w.traits⟩))

/-- A trait the member has keeps its value. -/
def Member.require (m : Member) : Member :=
  if m.traits.contains Prelude.requiredTrait then m
  else { m with traits := m.traits.insert Prelude.requiredTrait (.map []) }

/-- A block that shows the trait anywhere requires each of its members whose name it shows. -/
def requireAll (body : List Char) (ms : Entries Member) : Entries Member :=
  if Text.occursIn "@required".toList body then
    ms.map fun (k, m) => (k, if Text.occursIn k.toList body then m.require else m)
  else ms

def aggregateMembers (policy : RequiredPolicy) (ns : String) (body : List Char) :
    Except ReadCause (Entries Member) :=
  match policy with
  | .exact => .ok (members ns body)
  | .heuristic => .ok (requireAll body (members ns body))
  | .unset typeName => .error (.noSetting typeName)

def nameListIn (key : String) (ns : String) (body : List Char) : List String :=
  (((nameList key).first? body).getD []).map (resolve ns)

def shapeIn? (key : String) (ns : String) (body : List Char) : Option String :=
  ((shapeProperty key).first? body).map (resolve ns)

def serviceVersion (body : List Char) : String := (version.first? body).getD "1.0"

def blockShape (policy : RequiredPolicy) (ns : String) (kind : BlockKind) (body : List Char) :
    Except ReadCause Shape :=
  match kind with
  | .service =>
    .ok (.service (serviceVersion body) (nameListIn "operations" ns body)
      (nameListIn "errors" ns body))
  | .struct => (aggregateMembers policy ns body).map .struct
  | .union => (aggregateMembers policy ns body).map .union
  | .operation =>
    .ok (.operation (shapeIn? "input" ns body) (shapeIn? "output" ns body)
      (nameListIn "errors" ns body))
  | .list => .ok (.list (members ns body))
  | .map => .ok (.map (members ns body))

/-- What has been read so far. -/
structure Progress where
  service : Option String
  shapes : Entries Declared

/-- A second service is passed over; any other id that comes again takes its new meaning. -/
def Progress.add (policy : RequiredPolicy) (file ns : String) (p : Progress) (d : Declaration) :
    Logged Progress :=
  match d.written with
  | .simple kind name =>
    .ok { p with shapes := p.shapes.insert (ns ++ "#" ++ name) ⟨.simple kind, d.traits⟩ }
  | .block kind name body =>
    let id := ns ++ "#" ++ name
    match kind, p.service with
    | .service, some first => do
      Logged.note (.furtherService file id first)
      return p
    | _, _ =>
      match blockShape policy ns kind body with
      | .ok shape =>
        .ok ⟨if kind = .service then some id else p.service, p.shapes.insert id ⟨shape, d.traits⟩⟩
      | .error cause => do
        Logged.note (.unparsed ⟨file, cause⟩)
        Logged.fail (.unreadable ⟨file, cause⟩)

def addAll (policy : RequiredPolicy) (file ns : String) :
    List Declaration → Progress → Logged Progress
  | [], p => .ok p
  | d :: ds, p => do
    let p ← p.add policy file ns d
    addAll policy file ns ds p

def unknownNamespace : String := "unknown"

def namespaceOf (file : String) (cs : List Char) : Logged String :=
  match namespaceLine.first? cs with
  | some ns => .ok ns
  | none => do
    Logged.note (.noNamespace file)
    return unknownNamespace

def read (policy : RequiredPolicy) (file text : String) : Logged Ast := do
  let cs := stripComments text.toList
  let ns ← namespaceOf file cs
  let p ← addAll policy file ns (declaration.all cs) ⟨none, []⟩
  Logged.note (.parsed p.shapes.length file)
  return ⟨ns, p.shapes⟩

def read? (policy : RequiredPolicy) (file : String) : Option String → Logged Ast
  | some text => read policy file text
  | none => do
    Logged.note (.unparsed ⟨file, .noText⟩)
    Logged.fail (.unreadable ⟨file, .noText⟩)

end SmithyGen.Idl
