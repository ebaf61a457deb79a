import SmithyGen.Document.Imports

namespace SmithyGen

structure FieldDecl where
  name : String := ""
  type : String := ""
  default? : Option String := none
  comment : Option String := none

structure ParamDecl where
  name : String := ""
  type : Option String := none
  default? : Option String := none
  keywordOnly : Bool := false

structure FunctionDecl where
  name : String := ""
  params : List ParamDecl := []
  returns : Option String := none
  body : List String := []
  decorators : List String := []
  isAsync : Bool := false
  docstring : Option String := none

/-- A class; without `validations` it has no generated check of its fields. -/
structure TypeDecl where
  name : String := ""
  bases : List String := []
  decorators : List String := []
  docstring : Option String := none
  fields : List FieldDecl := []
  validations : Option (List (List String)) := none
  methods : List FunctionDecl := []

inductive Layout where
  | types
  | contract
  | handlers
  | routes
  | client
  | header
  | empty
deriving DecidableEq, Repr

def Layout.ofName? : String → Option Layout
  | "types" => some .types
  | "contract" => some .contract
  | "handlers" => some .handlers
  | "routes" => some .routes
  | "client" => some .client
  | "module" => some .header
  | "macros" => some .empty
  | _ => none

/-- Late imports stand after the declarations, for sibling modules that may import this one. -/
structure Document where
  module : String := ""
  layout : Layout
  generationComment : Option String := none
  docstring : Option String := none
  imports : Imports := {}
  lateImports : Imports := {}
  constants : List String := []
  declarations : List TypeDecl := []
  functions : List FunctionDecl := []

namespace ParamDecl

def text (p : ParamDecl) : String :=
  match p.type.filter (· != "") with
  | some a => p.name ++ ": " ++ a ++ p.default?.elim "" (" = " ++ ·)
  | none => p.name ++ p.default?.elim "" ("=" ++ ·)

end ParamDecl

namespace FunctionDecl

/-- Parameters as written; a star stands before the first that is given by name only. -/
def paramTexts : (starred : Bool) → List ParamDecl → List String
  | _, [] => []
  | starred, p :: ps =>
    if p.keywordOnly && !starred then "*" :: p.text :: paramTexts true ps
    else p.text :: paramTexts starred ps

def signature (f : FunctionDecl) : String := ", ".intercalate (paramTexts false f.params)

end FunctionDecl

end SmithyGen
