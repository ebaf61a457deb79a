import SmithyGen.CommandLine.Parameter
import SmithyGen.Text.Basic

namespace SmithyGen.CommandLine

def helpWidth : Nat := 78

def columnWidth : Nat := 32

def description : String :=
  "Generate Python types, a FastAPI server layer and an httpx client from Smithy IDL."

/-- Lines from the words that follow; `line` is the one begun. -/
def wrapFrom (width : Nat) : List String → String → List String
  | [], line => [line]
  | word :: words, line =>
    if line.length + 1 + word.length ≤ width then wrapFrom width words (line ++ " " ++ word)
    else line :: wrapFrom width words word

def wrap (width : Nat) (text : String) : List String :=
  match (Text.splitWhere (· == ' ') text.toList).map String.ofList with
  | [] => []
  | word :: words => wrapFrom width words word

def spaces (n : Nat) : String := String.ofList (List.replicate n ' ')

def Parameter.placeholder (p : Parameter) : String :=
  match p.kind with
  | .flag => ""
  | .text => " TEXT"
  | .path _ true true => " PATH"
  | .path _ true false => " FILE"
  | .path _ _ _ => " DIRECTORY"
  | .choice values => " [" ++ "|".intercalate values ++ "]"

def Parameter.heading (p : Parameter) : String :=
  p.short.elim "" (· ++ ", ") ++ p.long ++ p.placeholder

/-- A heading that does not fit its column stands on a line of its own. -/
def Parameter.helpLines (p : Parameter) : List String :=
  let text := if p.help == "" then [] else wrap (helpWidth - columnWidth - 2) p.help
  let later := text.map (spaces (columnWidth + 2) ++ ·)
  match text with
  | [] => ["  " ++ p.heading]
  | first :: _ =>
    if p.heading.length ≤ columnWidth - 2 then
      ("  " ++ p.heading ++ spaces (columnWidth - p.heading.length) ++ first) :: later.drop 1
    else ("  " ++ p.heading) :: later

def helpText : String :=
  let body := (wrap (helpWidth - 2) description).map ("  " ++ ·)
  let options := known.flatMap Parameter.helpLines
  usageLine ++ String.join ((("" :: body) ++ ("" :: "Options:" :: options)).map (· ++ "\n"))

end SmithyGen.CommandLine
