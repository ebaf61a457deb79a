import SmithyGen.Code.Expression

namespace SmithyGen.Code

open SmithyGen.Code.Parser

def captureName : Parser Unit := take fun
  | .word w => if isName w && w != "_" then some () else none
  | _ => none

def number (isImaginary : Bool) : Parser Unit := token (.number isImaginary)

/-- A number with or without sign, or a sum of a real and an imaginary one. -/
def numberPattern : Parser Unit := do
  discard (has (sign "-"))
  if ← has (number true) then return
  number false
  if ← has (signOf ["+", "-"]) then number true

def literalPattern (g : Grammar) : Parser Unit :=
  numberPattern <|> literals g <|> word "None" <|> word "True" <|> word "False"

def dottedName : Parser Bool := do return 1 < (← separated "." name).length

/-- Whether a keyword of a class pattern would come next. -/
def refuseEquals : Parser Unit := do
  guard ((← next?) != some (.sign "="))

variable (g : Grammar) (pattern : Parser Unit)

def sequenceItem : Parser Bool := do
  if ← has (sign "*") then
    name
    return true
  else
    pattern
    return false

/-- Patterns up to the end of a sequence without brackets; one alone is itself. -/
def openSequence : Parser Unit := do
  let (items, comma) ← listed (sequenceItem pattern)
  guard (comma || items == [false])

def classArguments : Parser Unit := do
  unless ← has (sign ")") do
    let (keywords, _) ← listed do
      if ← has (do name; sign "=") then
        pattern
        return Argument.keyword
      else
        pattern
        return Argument.plain
    guard (Argument.areOrdered keywords)
    sign ")"

def namePattern : Parser Unit := do
  unless ← has (word "_") do
    discard dottedName
    if ← has (sign "(") then classArguments pattern else refuseEquals

/-- An entry of a mapping; the flag says whether it names the rest. -/
def entryPattern : Parser Bool := do
  if ← has (sign "**") then
    captureName
    return true
  else
    literalPattern g <|> (do guard (← dottedName))
    sign ":"
    pattern
    return false

def closedPattern : Parser Unit :=
  literalPattern g
    <|> namePattern pattern
    <|> (do
      sign "("
      unless ← has (sign ")") do
        openSequence pattern
        sign ")")
    <|> (do
      sign "["
      unless ← has (sign "]") do
        discard (listed (sequenceItem pattern))
        sign "]")
    <|> (do
      sign "\x7b"
      unless ← has (sign "\x7d") do
        let (entries, _) ← listed (entryPattern g pattern)
        guard (!entries.dropLast.contains true)
        sign "\x7d")

def anyPattern : Parser Unit := do
  discard (separated "|" (closedPattern g pattern))
  if ← has (word "as") then captureName

def patternTo : (depth : Nat) → Parser Unit
  | 0 => failure
  | depth + 1 => anyPattern g (patternTo depth)

end SmithyGen.Code
