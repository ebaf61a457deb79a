import SmithyGen.Model
import SmithyGen.Naming

namespace SmithyGen

structure Resolved where
  shape : Shape
  isBuiltin : Bool := false
  isDangling : Bool := false

/-- What stands in for a reference that leads nowhere. -/
def unknownShape (id : Option String) : Shape :=
  { id := id.getD "", name := "Unknown", type := .document }

def builtinShape? (id : String) : Option Shape :=
  (Prelude.shapes.lookup id).bind fun typeName =>
    (ShapeType.ofName? typeName).map fun type => { id, name := Naming.shapeName id, type }

namespace Shape

def lookup? (shapes : List Shape) (id : String) : Option Shape := shapes.find? (·.id == id)

end Shape

def resolve (shapes : List Shape) (id : Option String) : Resolved :=
  match (id.bind Prelude.nonEmpty?).bind (Shape.lookup? shapes) with
  | some shape => { shape }
  | none =>
    match id.bind builtinShape? with
    | some shape => { shape, isBuiltin := true }
    | none => { shape := unknownShape id, isDangling := true }

def isResolvable (shapes : List Shape) (id : String) : Bool :=
  id != "" && ((Shape.lookup? shapes id).isSome || Prelude.isBuiltin id)

/-- What a value of a target is in the generated code. -/
inductive TargetKind where
  | string
  | integer
  | float
  | boolean
  | timestamp
  | binary
  | list
  | map
  | reference
  | unknown
deriving DecidableEq, Repr

namespace TargetKind

def name : TargetKind → String
  | .string => "string"
  | .integer => "integer"
  | .float => "float"
  | .boolean => "boolean"
  | .timestamp => "timestamp"
  | .binary => "binary"
  | .list => "list"
  | .map => "map"
  | .reference => "reference"
  | .unknown => "unknown"

end TargetKind

def ShapeType.kind : ShapeType → TargetKind
  | .struct => .reference
  | .list => .list
  | .map => .map
  | .string | .enum => .string
  | .integer | .long | .short | .byte | .intEnum | .bigInteger => .integer
  | .float | .double | .bigDecimal => .float
  | .boolean => .boolean
  | .timestamp => .timestamp
  | .blob => .binary
  | .union | .document | .service | .operation | .resource => .unknown

/-- A dangling reference has no known kind. -/
def Resolved.kind (r : Resolved) : TargetKind := if r.isDangling then .unknown else r.shape.type.kind

end SmithyGen
