import SmithyGen.Prelude

namespace SmithyGen

inductive ShapeType where
  | struct
  | union
  | list
  | map
  | string
  | integer
  | long
  | short
  | byte
  | float
  | double
  | boolean
  | timestamp
  | blob
  | enum
  | intEnum
  | bigInteger
  | bigDecimal
  | document
  | service
  | operation
  | resource
deriving DecidableEq, Repr

namespace ShapeType

def name : ShapeType → String
  | .struct => "structure"
  | .union => "union"
  | .list => "list"
  | .map => "map"
  | .string => "string"
  | .integer => "integer"
  | .long => "long"
  | .short => "short"
  | .byte => "byte"
  | .float => "float"
  | .double => "double"
  | .boolean => "boolean"
  | .timestamp => "timestamp"
  | .blob => "blob"
  | .enum => "enum"
  | .intEnum => "intEnum"
  | .bigInteger => "bigInteger"
  | .bigDecimal => "bigDecimal"
  | .document => "document"
  | .service => "service"
  | .operation => "operation"
  | .resource => "resource"

def all : List ShapeType :=
  [.struct, .union, .list, .map, .string, .integer, .long, .short, .byte, .float, .double,
   .boolean, .timestamp, .blob, .enum, .intEnum, .bigInteger, .bigDecimal, .document, .service,
   .operation, .resource]

def ofName? (s : String) : Option ShapeType := all.find? (·.name == s)

end ShapeType

/-- Where a member travels in a request. -/
inductive Location where
  | path
  | query
  | header
  | body
deriving DecidableEq, Repr

def Location.name : Location → String
  | .path => "path"
  | .query => "query"
  | .header => "header"
  | .body => "body"

/-- The traits that bind a member to a location, the strongest first. -/
def bindingTraits : List (String × Location) :=
  [(Prelude.httpLabelTrait, .path), (Prelude.httpQueryTrait, .query),
   (Prelude.httpHeaderTrait, .header), (Prelude.httpPayloadTrait, .body)]

def bindingOf (traits : Entries Value) : Option Location :=
  (bindingTraits.find? fun (id, _) => traits.contains id).map (·.2)

structure Member where
  name : String
  target : String
  binding : Option Location := none
  traits : Entries Value := []
  documentation : Option String := none

namespace Member

def isRequired (m : Member) : Bool := m.traits.contains Prelude.requiredTrait

def traitText? (m : Member) (id : String) : Option String :=
  ((m.traits.get? id).bind Value.str?).bind Prelude.nonEmpty?

/-- The name of the query parameter or header that carries a member. -/
def wireName (m : Member) : String :=
  ((m.traitText? Prelude.httpQueryTrait).or (m.traitText? Prelude.httpHeaderTrait)).getD m.name

end Member

structure Shape where
  id : String
  name : String
  type : ShapeType
  members : List Member := []
  target : Option String := none
  enumValues : Option (List Value) := none
  traits : Entries Value := []
  documentation : Option String := none

namespace Shape

def requiredMembers (s : Shape) : List Member := s.members.filter (·.isRequired)

def trait (s : Shape) (id : String) (fallback : Value) : Value := (s.traits.get? id).getD fallback

end Shape

structure HttpBinding where
  method : String
  uri : String
  code : Int
  pathParams : List String
  queryParams : List String
  headerParams : List String

structure Operation where
  id : String
  name : String
  input : Option Shape
  output : Option Shape
  errors : List Shape
  http : HttpBinding
  traits : Entries Value
  documentation : Option String

structure Service where
  id : String
  name : String
  version : Value
  ns : String
  operations : List Operation
  protocol : String
  errors : List String
  traits : Entries Value
  documentation : Option String

/-- A model without a service holds types only. -/
structure Model where
  ns : String
  shapes : List Shape
  service : Option Service
  metadata : Entries Value

namespace Model

def shape? (m : Model) (id : String) : Option Shape := m.shapes.find? (·.id == id)

def shapesOfType (m : Model) (t : ShapeType) : List Shape := m.shapes.filter (·.type == t)

def structures (m : Model) : List Shape := m.shapesOfType .struct

end Model

end SmithyGen
