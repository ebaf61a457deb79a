import SmithyGen.Document.Basic
import SmithyGen.Document.Docstring

namespace SmithyGen

def pad (indent : Nat) : String := String.ofList (Docstring.padding indent)

def indented (indent : Nat) (line : String) : String := if line == "" then "" else pad indent ++ line

/-- A text that is missing or empty is not written. -/
def present (s : Option String) : Option String := s.filter (· != "")

def docstringLine (docs : Option String) (indent : Nat) : List String :=
  (present docs).elim [] fun text => [Docstring.render text indent]

namespace FunctionDecl

def header (f : FunctionDecl) : String :=
  (if f.isAsync then "async " else "") ++ "def " ++ f.name ++ "(" ++ f.signature ++ ")"
    ++ (present f.returns).elim "" (" -> " ++ ·) ++ ":"

def lines (f : FunctionDecl) (indent : Nat) : List String :=
  f.decorators.map (fun d => pad indent ++ "@" ++ d) ++ [pad indent ++ f.header]
    ++ docstringLine f.docstring (indent + 1) ++ f.body.map (indented (indent + 1))
    ++ (if f.body.isEmpty && (present f.docstring).isNone then [pad (indent + 1) ++ "pass"] else [])

end FunctionDecl

namespace FieldDecl

def commentLines (f : FieldDecl) : List String :=
  (present f.comment).elim [] fun text =>
    (Text.lines (Text.trim text.toList)).map fun line =>
      String.ofList (Text.trimEnd ('#' :: ' ' :: line))

def lines (f : FieldDecl) : List String :=
  f.commentLines.map (pad 1 ++ ·)
    ++ [pad 1 ++ f.name ++ ": " ++ f.type ++ f.default?.elim "" (" = " ++ ·)]

end FieldDecl

namespace TypeDecl

def headLines (t : TypeDecl) : List String :=
  t.decorators.map ("@" ++ ·)
    ++ ["class " ++ t.name
        ++ (if t.bases.isEmpty then "" else "(" ++ ", ".intercalate t.bases ++ ")") ++ ":"]

def hasDocs (t : TypeDecl) : Bool := (present t.docstring).isSome

def isEmpty (t : TypeDecl) : Bool :=
  !t.hasDocs && t.fields.isEmpty && t.methods.isEmpty && t.validations.isNone

def fieldLines (t : TypeDecl) : List String := t.fields.flatMap (·.lines) ++ [""]

def lines (t : TypeDecl) : List String :=
  t.headLines ++ docstringLine t.docstring 1
    ++ (if t.fields.isEmpty then [] else (if t.hasDocs then [""] else []) ++ t.fieldLines)
    ++ (if t.methods.isEmpty then []
        else (if t.hasDocs && t.fields.isEmpty then [""] else [])
          ++ t.methods.flatMap fun m => m.lines 1 ++ [""])
    ++ (if t.isEmpty then [pad 1 ++ "pass"] else [])

/-- A data class: its fields, then the check that runs after construction, then methods. -/
def dataLines (t : TypeDecl) : List String :=
  t.headLines ++ (if t.hasDocs then docstringLine t.docstring 1 ++ [""] else [])
    ++ (if t.fields.isEmpty then [] else t.fieldLines)
    ++ [pad 1 ++ "def __post_init__(self):",
        pad 2 ++ "self.validate()",
        "",
        pad 1 ++ "def validate(self) -> None:",
        pad 2 ++ "\"\"\"Check field constraints, raising ValueError on the first violation.\"\"\""]
    ++ (t.validations.getD []).flatten.map (indented 2)
    ++ t.methods.flatMap fun m => "" :: m.lines 1 ++ [""]

end TypeDecl

namespace Document

def separated (lines : List String) : List String := "" :: "" :: lines ++ [""]

def functionLines (d : Document) : List String := d.functions.flatMap fun f => separated (f.lines 0)

def declarationLines (d : Document) : List String := d.declarations.flatMap fun t => separated t.lines

def headerLines (d : Document) (imports : List String) : List String :=
  (present d.generationComment).toList
    ++ (present d.docstring).elim [] (fun text => [Docstring.render text 0, ""])
    ++ imports
    ++ (if d.constants.isEmpty then [] else "" :: "" :: d.constants)

def lateImportLines : List String → List String
  | [] => []
  | lines =>
    "" :: "" ::
      "# Sibling types, imported after the class so that modules referencing each other load" :: lines

def lines (d : Document) : Except Fault (List String) := do
  match d.layout with
  | .empty => return []
  | .header => return d.headerLines (← d.imports.lines)
  | .contract => return d.headerLines (← d.imports.lines) ++ d.declarationLines
  | .handlers =>
    return d.headerLines (← d.imports.lines) ++ d.functionLines ++ d.declarationLines
  | .routes => return d.headerLines (← d.imports.lines) ++ d.functionLines
  | .client => return d.headerLines (← d.imports.lines) ++ d.declarationLines ++ d.functionLines
  | .types =>
    let header := d.headerLines (← d.imports.lines)
    let types := d.declarations.flatMap fun t => "" :: "" :: t.dataLines
    return header ++ d.functionLines ++ types ++ lateImportLines (← d.lateImports.lines)

/-- Keeps at most two empty lines in a row; `run` counts those just kept. -/
def capBlank : (run : Nat) → List (List Char) → List (List Char)
  | _, [] => []
  | run, line :: rest =>
    if line.isEmpty then if run < 2 then line :: capBlank (run + 1) rest else capBlank run rest
    else line :: capBlank 0 rest

def dropBlankEnds (lines : List (List Char)) : List (List Char) :=
  ((lines.dropWhile List.isEmpty).reverse.dropWhile List.isEmpty).reverse

/-- No blanks at the ends of lines, no empty lines at either end, at most two in a row, and one line
feed at the end. -/
def tidy (cs : List Char) : List Char :=
  let lines := (Text.splitWhere (· == '\n') cs).map Text.trimEnd
  Text.joinWith ['\n'] (capBlank 0 (dropBlankEnds lines)) ++ ['\n']

def render (d : Document) : Except Fault String := do
  let text := Text.joinWith ['\n'] ((← d.lines).map String.toList)
  return String.ofList (tidy text)

end Document

end SmithyGen
