import SmithyGen.Value

namespace SmithyGen.Prelude

def version : String := "2.0"

def id (name : String) : String := "smithy.api#" ++ name

def documentationTrait : String := id "documentation"
def requiredTrait : String := id "required"
def lengthTrait : String := id "length"
def rangeTrait : String := id "range"
def patternTrait : String := id "pattern"
def httpTrait : String := id "http"
def httpLabelTrait : String := id "httpLabel"
def httpQueryTrait : String := id "httpQuery"
def httpHeaderTrait : String := id "httpHeader"
def httpPayloadTrait : String := id "httpPayload"

/-- An input or output with this id has no structure. -/
def unitShape : String := id "Unit"

/-- Names of the wire protocols, in the order in which they are looked for. -/
def protocols : List String := ["restJson1", "awsJson1_0", "awsJson1_1"]

def protocolTrait (name : String) : String := "aws.protocols#" ++ name

def shapes : List (String × String) :=
  [(id "String", "string"), (id "Integer", "integer"), (id "Long", "long"), (id "Short", "short"),
   (id "Byte", "byte"), (id "Float", "float"), (id "Double", "double"), (id "Boolean", "boolean"),
   (id "Timestamp", "timestamp"), (id "Blob", "blob"), (id "BigInteger", "bigInteger"),
   (id "BigDecimal", "bigDecimal"), (id "Document", "document"),
   (id "PrimitiveInteger", "integer"), (id "PrimitiveLong", "long"),
   (id "PrimitiveShort", "short"), (id "PrimitiveByte", "byte"), (id "PrimitiveFloat", "float"),
   (id "PrimitiveDouble", "double"), (id "PrimitiveBoolean", "boolean")]

def isBuiltin (shapeId : String) : Bool := (shapes.lookup shapeId).isSome

/-- Type names that a model text may use without a namespace. -/
def simpleNames : List String :=
  ["String", "Integer", "Long", "Short", "Byte", "Float", "Double", "Boolean", "Timestamp", "Blob"]

def nonEmpty? (s : String) : Option String := if s == "" then none else some s

/-- The id a reference names: a reference is a bare id or a map with a target. -/
def reference? : Value → Option String
  | .str s => nonEmpty? s
  | .map es => (Value.field es "target").str?.bind nonEmpty?
  | _ => none

end SmithyGen.Prelude
