import SmithyGen.Prelude

namespace SmithyGen.Idl

structure Member where
  target : String
  traits : Entries Value

inductive Shape where
  | simple (kind : String)
  | service (version : String) (operations errors : List String)
  | struct (members : Entries Member)
  | union (members : Entries Member)
  | operation (input output : Option String) (errors : List String)
  | list (members : Entries Member)
  | map (members : Entries Member)

structure Declared where
  shape : Shape
  traits : Entries Value

/-- The shapes of a text by id, in order of their first declaration. -/
structure Ast where
  ns : String
  shapes : Entries Declared

def Member.toValue (m : Member) : Value :=
  .map [("target", .str m.target), ("traits", .map m.traits)]

def membersValue (ms : Entries Member) : Value := .map (ms.map fun (k, m) => (k, m.toValue))

def idList (ids : List String) : Value := .list (ids.map .str)

/-- The target of a member, null where there is no such member. -/
def elementTarget (ms : Entries Member) (name : String) : Value :=
  Value.ofOption ((ms.get? name).map (·.target))

def Shape.fields : Shape → List (String × Value)
  | .simple kind => [("type", .str kind)]
  | .service version operations errors =>
    [("type", .str "service"), ("version", .str version), ("operations", idList operations),
     ("errors", idList errors)]
  | .struct members => [("type", .str "structure"), ("members", membersValue members)]
  | .union members => [("type", .str "union"), ("members", membersValue members)]
  | .operation input output errors =>
    [("type", .str "operation"), ("input", Value.ofOption input), ("output", Value.ofOption output),
     ("errors", idList errors)]
  | .list members =>
    [("type", .str "list"), ("members", membersValue members),
     ("target", elementTarget members "member")]
  | .map members =>
    [("type", .str "map"), ("members", membersValue members),
     ("target", elementTarget members "value")]

def Declared.toValue (d : Declared) : Value := .map (d.shape.fields ++ [("traits", .map d.traits)])

def Ast.toValue (a : Ast) : Value :=
  .map [("smithy", .str Prelude.version),
    ("shapes", .map (a.shapes.map fun (k, d) => (k, d.toValue))),
    ("metadata", .map [("namespace", .str a.ns)])]

end SmithyGen.Idl
