import SmithyGen.Template.Format
import SmithyGen.Value.Literal

namespace SmithyGen.Template

inductive Subject where
  | value (form : Value.Form) (v : Value)
  | type (name : String)

namespace Subject

def ofString (s : String) : Subject := .value .plain (.str s)

def typeName : Subject → String
  | .value .sealed (.list _) => "tuple"
  | .value .sealed (.map _) => "mappingproxy"
  | .value _ v => v.typeName
  | .type _ => "type"

def shown : Subject → String
  | .value form v => v.display form
  | .type name => "<class '" ++ name ++ "'>"

def literal : Subject → String
  | .value form v => v.literal form
  | .type name => "<class '" ++ name ++ "'>"

/-- The parts that a number has; a truth value is one or zero. -/
def numberPart? (name : String) : Value → Option Value
  | .int n =>
    match name with
    | "real" | "numerator" => some (.int n)
    | "imag" => some (.int 0)
    | "denominator" => some (.int 1)
    | _ => none
  | .bool b =>
    match name with
    | "real" | "numerator" => some (.int (if b then 1 else 0))
    | "imag" => some (.int 0)
    | "denominator" => some (.int 1)
    | _ => none
  | .float x =>
    match name with
    | "real" => some (.float x)
    | "imag" => some (.float (.zero false))
    | _ => none
  | _ => none

def attributeOf (name : String) (s : Subject) : Except Fault Subject :=
  match s, name with
  | _, "__class__" => .ok (.type s.typeName)
  | .type known, "__name__" | .type known, "__qualname__" => .ok (.ofString known)
  | .type _, "__module__" => .ok (.ofString "builtins")
  | .value form v, _ =>
    (numberPart? name v).elim (.error .wrongType) fun part => .ok (.value form part)
  | _, _ => .error .wrongType

def itemAt (index : Nat) : Subject → Except Fault Subject
  | .value form (.list xs) => xs[index]?.elim (.error .noSuchIndex) fun v => .ok (.value form v)
  | .value _ (.str s) =>
    s.toList[index]?.elim (.error .noSuchIndex) fun c => .ok (.ofString c.toString)
  | .value _ (.map _) => .error (.missingKey (toString index))
  | _ => .error .wrongType

def itemOf (key : String) : Subject → Except Fault Subject
  | .value form (.map es) =>
    (Entries.get? key es).elim (.error (.missingKey (Text.quoted key))) fun v => .ok (.value form v)
  | _ => .error .wrongType

/-- Written as a specification says; only texts and numbers can follow one. -/
def format (spec : List Char) (s : Subject) : Except Fault (List Char) :=
  match s with
  | .value _ (.str t) => formatText spec t.toList
  | .value form v =>
    if spec.isEmpty then .ok (v.display form).toList
    else match v with
      | .int n => formatInteger "int" spec n
      | .bool b => formatInteger "bool" spec (if b then 1 else 0)
      | .float x => formatDouble spec x
      | _ => .error .wrongType
  | .type _ => if spec.isEmpty then .ok s.shown.toList else .error .wrongType

def narrow (text : String) : String :=
  String.ofList (text.toList.flatMap fun c => if c.toNat < 128 then [c] else Text.escapeCode c)

def convert (s : Subject) : Option Char → Except Fault Subject
  | none => .ok s
  | some 's' => .ok (.ofString s.shown)
  | some 'r' => .ok (.ofString s.literal)
  | some 'a' => .ok (.ofString (narrow s.literal))
  | some mark => .error (.badValue (.template (.conversion mark)))

end Subject

end SmithyGen.Template
