import SmithyGen.Idl.Lexeme
import SmithyGen.Json.Reader
import SmithyGen.Number.Reading
import SmithyGen.Prelude
import SmithyGen.Scan

namespace SmithyGen.Idl

/-- A trait as written: its name and the text of its arguments. -/
structure Application where
  name : String
  args : Option (List Char)
deriving DecidableEq, Repr

/-- Arguments that do not close are no arguments. -/
def application? : List Char → Option (Application × List Char)
  | '@' :: cs =>
    let name := cs.takeWhile isIdChar
    let rest := cs.dropWhile isIdChar
    if name.isEmpty then none
    else
      let arguments := match rest with
        | '(' :: inner => arguments? inner
        | _ => none
      match arguments with
      | some (args, rest) => some (⟨String.ofList name, some args⟩, rest)
      | none => some (⟨String.ofList name, none⟩, rest)
  | _ => none

def applications (cs : List Char) : List Application × List Char :=
  Matcher.run (fun cs => (application? cs).map fun (a, rest) => (a, skipBlank rest)) cs

def traitId (name : String) : String :=
  if name.toList.contains '#' then name
  else if Prelude.protocols.contains name then Prelude.protocolTrait name
  else Prelude.id name

/-- The text of a string literal: as JSON where it is that, else the escapes of quotes and
backslashes are undone. -/
def unquote (literal : List Char) : Value :=
  match Json.decode (String.ofList literal) with
  | .ok v => v
  | .error _ =>
    let inner := (literal.drop 1).dropLast
    .str (String.ofList (Text.replace ['\\', '\\'] ['\\'] (Text.replace ['\\', '"'] ['"'] inner)))

/-- A string, boolean, null, integer or decimal, or else the text itself. -/
def scalar (text : List Char) : Value :=
  let text := Text.trim text
  let s := String.ofList text
  if text.head? == some '"' then unquote text
  else if s == "true" then .bool true
  else if s == "false" then .bool false
  else if s == "null" then .null
  else match Number.int? text with
    | some n => .int n
    | none => match Number.float? text with
      | some x => .float x
      | none => .str s

/-- A key, a colon and a value: a string literal, or text up to a comma or blank. -/
def pair? (cs : List Char) : Option ((String × Value) × List Char) :=
  let key := cs.takeWhile Text.isWord
  match skipBlank (cs.dropWhile Text.isWord) with
  | ':' :: rest =>
    let rest := skipBlank rest
    let bare := rest.takeWhile fun c => !(c == ',' || Text.isBlank c)
    if key.isEmpty then none
    else match literal? rest with
      | some (text, rest) => some ((String.ofList key, scalar text), rest)
      | none =>
        if bare.isEmpty then none
        else some ((String.ofList key, scalar bare), rest.drop bare.length)
  | _ => none

/-- No arguments are an empty map, a string literal is its text, pairs are a map, and anything else
is one scalar. -/
def argumentValue (args : List Char) : Value :=
  let args := Text.trim args
  if args.isEmpty then .map []
  else match literal? args with
    | some (text, []) => unquote text
    | _ =>
      match Matcher.all (fun _ => pair?) args with
      | [] => scalar args
      | pairs => .map (Entries.ofList pairs)

def Application.value (a : Application) : Value := a.args.elim (.map []) argumentValue

def docLine? (cs : List Char) : Option (List Char × List Char) :=
  match Text.strip? ['/', '/', '/'] cs with
  | some rest =>
    match rest.dropWhile (· != '\n') with
    | '\n' :: after =>
      let left := skipBlank after
      some (cs.take (cs.length - left.length), left)
    | _ => none
  | none => none

def docs (cs : List Char) : List Char × List Char :=
  let (lines, rest) := Matcher.run docLine? cs
  (lines.flatten, rest)

/-- A documentation line without its slashes and one space after them. -/
def docText (line : List Char) : List Char :=
  let line := Text.trim line
  match Text.strip? ['/', '/', '/'] line with
  | some (' ' :: text) => text
  | some text => text
  | none => line

def documentation? (raw : List Char) : Option String :=
  let text := Text.trim (Text.joinWith ['\n'] ((Text.lines (Text.trim raw)).map docText))
  if text.isEmpty then none else some (String.ofList text)

/-- Traits by id, the last application of an id winning; documentation comments stand in for a
missing documentation trait. -/
def traitEntries (raw : List Char) (applied : List Application) : Entries Value :=
  let traits := Entries.ofList (applied.map fun a => (traitId a.name, a.value))
  match documentation? raw with
  | some text =>
    if traits.contains Prelude.documentationTrait then traits
    else traits.insert Prelude.documentationTrait (.str text)
  | none => traits

end SmithyGen.Idl
