import SmithyGen.Document.Basic
import SmithyGen.Model.Resolve

namespace SmithyGen.Emit

inductive Wrapper where
  | list
  | dict
deriving DecidableEq, Repr

/-- A generated type, or a scalar kind. -/
inductive Base where
  | reference (id name : String)
  | scalar (kind : TargetKind)
deriving DecidableEq, Repr

structure TypeExpr where
  wrappers : List Wrapper
  base : Base
deriving DecidableEq, Repr

def scalarName : TargetKind → String
  | .string => "str"
  | .integer => "int"
  | .float => "float"
  | .boolean => "bool"
  | .timestamp => "datetime"
  | .binary => "bytes"
  | .list | .map | .reference | .unknown => "Any"

def typeDepth : Nat := 8

/-- Follows the element targets from `target` on, `left` steps at most; beyond that nothing is
known. -/
def typeFrom (shapes : List Shape) : (left : Nat) → Option String → TypeExpr
  | 0, _ => ⟨[], .scalar .unknown⟩
  | left + 1, target =>
    let r := resolve shapes target
    match r.kind with
    | .reference => ⟨[], .reference r.shape.id r.shape.name⟩
    | .list =>
      let inner := typeFrom shapes left r.shape.target
      { inner with wrappers := .list :: inner.wrappers }
    | .map =>
      let inner := typeFrom shapes left r.shape.target
      { inner with wrappers := .dict :: inner.wrappers }
    | kind => ⟨[], .scalar kind⟩

def typeExpr (shapes : List Shape) (target : String) : TypeExpr :=
  typeFrom shapes (typeDepth + 1) (some target)

def Wrapper.wrap : Wrapper → String → String
  | .list, inner => "list[" ++ inner ++ "]"
  | .dict, inner => "dict[str, " ++ inner ++ "]"

def Base.text : Base → String
  | .reference _ name => name
  | .scalar kind => scalarName kind

def TypeExpr.text (a : TypeExpr) : String := a.wrappers.foldr Wrapper.wrap a.base.text

/-- What a type needs imported at the top of its module. -/
def Base.addImports (b : Base) (i : Imports) : Imports :=
  match b with
  | .scalar .timestamp => i.add "datetime" ["datetime"]
  | .scalar .unknown => i.add "typing" ["Any"]
  | _ => i

/-- Other generated types are imported late. -/
def Base.addLateImports (current : String) (b : Base) (i : Imports) : Imports :=
  match b with
  | .reference id name => if id == current then i else i.addRelative (Naming.snake name) [name] 1
  | .scalar _ => i

end SmithyGen.Emit
