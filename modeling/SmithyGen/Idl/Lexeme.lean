import SmithyGen.Text.Basic
import SmithyGen.Text.WordChar

namespace SmithyGen.Idl

/-- Where a one-pass reader of enclosed text stands. -/
inductive Place where
  | outside
  | inString
  | escaped
deriving DecidableEq, Repr

def Place.next : Place → Char → Place
  | .outside, c => if c == '"' then .inString else .outside
  | .inString, c => if c == '"' then .outside else if c == '\\' then .escaped else .inString
  | .escaped, _ => .inString

/-- The text up to the first closing character outside of string literals, and what follows it.
A refused character outside, a line feed after a backslash or the end of the text leave none. -/
def enclosedFrom (close : Char) (refused : Char → Bool) :
    Place → List Char → Option (List Char × List Char)
  | _, [] => none
  | place, c :: cs =>
    if place == .outside && c == close then some ([], cs)
    else if place == .outside && refused c || place == .escaped && c == '\n' then none
    else (enclosedFrom close refused (place.next c) cs).map fun (text, rest) => (c :: text, rest)

def body? (cs : List Char) : Option (List Char × List Char) :=
  enclosedFrom '\x7d' (fun _ => false) .outside cs

/-- Trait arguments after their opening parenthesis; they hold no further parenthesis. -/
def arguments? (cs : List Char) : Option (List Char × List Char) :=
  enclosedFrom ')' (· == '(') .outside cs

def stringTail? : List Char → Option (List Char × List Char)
  | [] => none
  | ['\\'] => none
  | '"' :: cs => some (['"'], cs)
  | '\\' :: c :: cs =>
    if c == '\n' then none
    else (stringTail? cs).map fun (text, rest) => ('\\' :: c :: text, rest)
  | c :: cs => (stringTail? cs).map fun (text, rest) => (c :: text, rest)

def literal? : List Char → Option (List Char × List Char)
  | '"' :: cs => (stringTail? cs).map fun (text, rest) => ('"' :: text, rest)
  | _ => none

def isIdChar (c : Char) : Bool := Text.isWord c || c == '.' || c == '#'

def isNameStart (c : Char) : Bool := c.isAlpha || c == '_'

def nameOf? (more : Char → Bool) : List Char → Option (String × List Char)
  | [] => none
  | c :: cs =>
    if isNameStart c then some (String.ofList (c :: cs.takeWhile more), cs.dropWhile more) else none

def name? (cs : List Char) : Option (String × List Char) := nameOf? Text.isWord cs

def target? (cs : List Char) : Option (String × List Char) := nameOf? isIdChar cs

def skipBlank (cs : List Char) : List Char := cs.dropWhile Text.isBlank

def mayStartAfter : Option Char → Bool
  | none => true
  | some c => !(isIdChar c || c == '$')

end SmithyGen.Idl
