import SmithyGen.Scan
import SmithyGen.Text.Basic

namespace SmithyGen.Idl

def afterClose? : List Char → Option (List Char)
  | [] => none
  | '*' :: '/' :: cs => some cs
  | _ :: cs => afterClose? cs

def blockComment : Matcher (List Char) := fun _ cs =>
  match cs with
  | '/' :: '*' :: cs => (afterClose? cs).map ([], ·)
  | _ => none

def slashes? : List Char → Option (List Char)
  | '/' :: '/' :: '/' :: _ => none
  | '/' :: '/' :: cs => some (cs.dropWhile (· != '\n'))
  | _ => none

def startsLine (before : Option Char) : Bool := before == none || before == some '\n'

/-- A line comment; the blank before it is kept. -/
def lineComment : Matcher (List Char) := fun before cs =>
  match if startsLine before then slashes? cs else none with
  | some rest => some ([], rest)
  | none =>
    match cs with
    | c :: cs => if Text.isInlineBlank c then (slashes? cs).map ([c], ·) else none
    | [] => none

def stripComments (cs : List Char) : List Char :=
  lineComment.substitute (blockComment.substitute cs)

end SmithyGen.Idl
