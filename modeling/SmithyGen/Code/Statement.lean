import SmithyGen.Code.Pattern

namespace SmithyGen.Code

open SmithyGen.Code.Parser

def lineEnd : Parser Unit := token .lineEnd

section

variable (g : Grammar)

def dotted : Parser Unit := discard (separated "." name)

def otherName : Parser Unit := do if ← has (word "as") then name

def importStatement : Parser Unit := do
  word "import"
  discard (separated "," do dotted; otherName)

def importedNames : Parser Unit :=
  sign "*" <|> (do
    sign "("
    discard (listed do name; otherName)
    sign ")") <|> discard (separated "," do name; otherName)

def importFrom : Parser Unit := do
  word "from"
  let dots ← many (signOf [".", "..."])
  unless ← has dotted do guard (!dots.isEmpty)
  word "import"
  importedNames

def augmentedSigns : List String :=
  ["+=", "-=", "*=", "@=", "/=", "%=", "&=", "|=", "^=", "<<=", ">>=", "**=", "//="]

def expressionStatement : Parser Unit := do
  let target ← assigned g
  if ← has (sign ":") then
    guard (target == .single)
    discard (g .expression)
    if ← has (sign "=") then discard (assigned g)
  else if ← has (signOf augmentedSigns) then
    guard (target == .single)
    discard (assigned g)
  else
    let values ← many do sign "="; assigned g
    guard (!(target :: values).dropLast.contains .unfit)

def deletion : Parser Unit := do
  word "del"
  discard <| listed do
    let target ← g .primary
    guard (target == .single || target == .several false)

def raiseStatement : Parser Unit := do
  word "raise"
  if ← has (g .expression) then if ← has (word "from") then discard (g .expression)

def assertion : Parser Unit := do
  word "assert"
  discard (g .expression)
  if ← has (sign ",") then discard (g .expression)

def scopeStatement : Parser Unit := do
  word "global" <|> word "nonlocal"
  discard (separated "," name)

def simpleStatement : Parser Unit :=
  (do word "return"; discard (has (expressions g)))
    <|> word "pass" <|> word "break" <|> word "continue"
    <|> importStatement <|> importFrom
    <|> raiseStatement g <|> deletion g <|> assertion g <|> scopeStatement
    <|> expressionStatement g

def simpleStatements : Parser Unit := do
  discard (separated ";" (simpleStatement g))
  discard (has (sign ";"))
  lineEnd

end

section

variable (g : Grammar) (block : Parser Unit)

def body : Parser Unit := do
  sign ":"
  block

def otherwise : Parser Unit := do if ← has (word "else") then body block

def ifStatement : Parser Unit := do
  word "if"
  discard (namedExpression g)
  body block
  discard <| many do
    word "elif"
    discard (namedExpression g)
    body block
  otherwise block

def whileStatement : Parser Unit := do
  word "while"
  discard (namedExpression g)
  body block
  otherwise block

def forStatement : Parser Unit := do
  word "for"
  targets g
  word "in"
  discard (expressions g)
  body block
  otherwise block

/-- What happens to some faults; a star splits groups of them. -/
def handler : Parser Bool := do
  word "except"
  let isStarred ← has (sign "*")
  if ← has (g .expression) then otherName else guard !isStarred
  body block
  return isStarred

def tryStatement : Parser Unit := do
  word "try"
  body block
  let handlers ← many (handler g block)
  guard (handlers.all id || handlers.all not)
  unless handlers.isEmpty do otherwise block
  if ← has (word "finally") then body block else guard !handlers.isEmpty

def contextItem : Parser Unit := do
  discard (g .expression)
  if ← has (word "as") then discard (targetItem g)

/-- Items between parentheses, if these end the head of the statement, or without them. -/
def contextItems : Parser Unit :=
  (do
    sign "("
    discard (listed (contextItem g))
    sign ")"
    guard ((← next?) == some (.sign ":"))) <|> discard (separated "," (contextItem g))

def withStatement : Parser Unit := do
  word "with"
  contextItems g
  body block

def functionDefinition : Parser Unit := do
  word "def"
  name
  sign "("
  parameters g true
  sign ")"
  if ← has (sign "->") then discard (g .expression)
  body block

def classDefinition : Parser Unit := do
  word "class"
  name
  if ← has (sign "(") then arguments g false
  body block

def asyncStatement : Parser Unit := do
  word "async"
  functionDefinition g block <|> withStatement g block <|> forStatement g block

def decorated : Parser Unit := do
  discard <| oneOrMore do
    sign "@"
    discard (namedExpression g)
    lineEnd
  functionDefinition g block <|> classDefinition g block
    <|> (do word "async"; functionDefinition g block)

def matchSubject : Parser Unit := do
  match ← listed (bracketItem g) with
  | ([⟨true, _⟩], false) => failure
  | _ => return

def caseBlock (depth : Nat) : Parser Unit := do
  word "case"
  openSequence (patternTo g depth)
  if ← has (word "if") then discard (namedExpression g)
  body block

def matchStatement (depth : Nat) : Parser Unit := do
  word "match"
  matchSubject g
  sign ":"
  lineEnd
  token .blockStart
  discard (oneOrMore (caseBlock g block depth))
  token .blockEnd

def statement (depth : Nat) : Parser Unit :=
  ifStatement g block <|> whileStatement g block <|> forStatement g block
    <|> tryStatement g block <|> withStatement g block
    <|> functionDefinition g block <|> classDefinition g block
    <|> asyncStatement g block <|> decorated g block
    <|> matchStatement g block depth
    <|> simpleStatements g

end

/-- A block to a depth of nesting: statements on lines of their own, or on the line of its head. -/
def blockTo (g : Grammar) : (depth : Nat) → Parser Unit
  | 0 => failure
  | depth + 1 =>
    (do
      lineEnd
      token .blockStart
      discard (oneOrMore (statement g (blockTo g depth) depth))
      token .blockEnd) <|> simpleStatements g

/-- The statements of a module, nested to a depth. -/
def statements (depth : Nat) : Parser Unit :=
  discard (many (statement (grammar depth) (blockTo (grammar depth) depth) depth))

end SmithyGen.Code
