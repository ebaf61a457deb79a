import SmithyGen.Text.Basic

namespace SmithyGen.Docstring

def tripleQuote : List Char := ['"', '"', '"']

def doubleBackslash (c : Char) : List Char := if c == '\\' then ['\\', '\\'] else [c]

/-- Backslashes, runs of three quotes and a quote at the end are escaped. -/
def escape (cs : List Char) : List Char :=
  let escaped := Text.replace tripleQuote ['\\', '"', '\\', '"', '\\', '"']
    ((Text.trim cs).flatMap doubleBackslash)
  if escaped.getLast? == some '"' then escaped.dropLast ++ ['\\', '"'] else escaped

def padding (indent : Nat) : List Char := List.replicate (4 * indent) ' '

/-- A line of the literal after the first; blank lines stay empty. -/
def continuation (pad line : List Char) : List Char :=
  if line.all Text.isBlank then [] else pad ++ line

def lines (indent : Nat) (text : List Char) : List (List Char) :=
  let pad := padding indent
  match Text.lines (escape text) with
  | [] => [pad ++ tripleQuote ++ tripleQuote]
  | [line] => [pad ++ tripleQuote ++ line ++ tripleQuote]
  | line :: rest =>
    (pad ++ tripleQuote ++ line) :: (rest.map (continuation pad) ++ [pad ++ tripleQuote])

def render (text : String) (indent : Nat) : String :=
  String.ofList (Text.joinWith ['\n'] (lines indent text.toList))

end SmithyGen.Docstring
