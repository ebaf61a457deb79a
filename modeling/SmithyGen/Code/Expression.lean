import SmithyGen.Code.Argument
import SmithyGen.Code.Parser
import SmithyGen.Naming

namespace SmithyGen.Code

open SmithyGen.Code.Parser

/-- What an expression is as the left side of an assignment: no target, one place, or a list of
targets, of which some may be starred. -/
inductive Target where
  | unfit
  | single
  | several (hasStar : Bool)
deriving DecidableEq, Repr

/-- The phrases that contain others of their kind. -/
inductive Phrase where
  | expression
    | operand
    | primary

abbrev Grammar := Phrase → Parser Target

/-- Some reserved words are reserved in their place only. -/
def isName (word : String) : Bool :=
  !Naming.keywords.contains word || word == "_" || word == "case" || word == "match"

def name : Parser Unit := take fun
  | .word w => if isName w then some () else none
  | _ => none

def signOf (texts : List String) : Parser Unit := take fun
  | .sign s => if texts.contains s then some () else none
  | _ => none

structure Item where
  isStarred : Bool
  target : Target

def Item.hasStar (i : Item) : Bool := i.isStarred || i.target == .several true

def listTarget (items : List Item) : Target :=
  if items.any (·.target == .unfit) then .unfit else .several (items.any Item.hasStar)

def operands (p : Parser Target) (between : Parser Unit) : Parser Target := do
  let first ← p
  let others ← many do between; p
  return if others.isEmpty then first else .unfit

def comparisonSigns : List String := ["==", "!=", "<", "<=", ">", ">="]

def comparisonSign : Parser Unit :=
  signOf comparisonSigns <|> word "in" <|> (do word "not"; word "in")
    <|> (do word "is"; discard (has (word "not")))

def arithmeticSigns : List String :=
  ["|", "^", "&", "<<", ">>", "+", "-", "*", "/", "//", "%", "@", "**"]

def startsLoop : Parser Bool := do
  match ← next? with
  | some (.word w) => return w == "for" || w == "async"
  | _ => return false

variable (g : Grammar)

/-- An expression, maybe after a name for its value; the flag says whether there is one. -/
def namedExpression : Parser (Bool × Target) := do
  if ← has (do name; sign ":=") then
    discard (g .expression)
    return (true, .unfit)
  else return (false, ← g .expression)

def starredOperand : Parser Item := do
  sign "*"
  return ⟨true, ← g .operand⟩

def bareItem : Parser Item := starredOperand g <|> do return ⟨false, ← g .expression⟩

def bracketItem : Parser Item := starredOperand g <|> do return ⟨false, (← namedExpression g).2⟩

/-- Items without brackets; one without star or comma is itself. -/
def expressions : Parser Target := do
  match ← listed (bareItem g) with
  | ([⟨false, t⟩], false) => return t
  | (items, _) => return listTarget items

def yieldExpression : Parser Target := do
  word "yield"
  if ← has (word "from") then discard (g .expression) else discard (has (expressions g))
  return .unfit

def assigned : Parser Target := yieldExpression g <|> expressions g

def negation : Parser Target := do
  let marks ← many (word "not")
  let t ← operands (g .operand) comparisonSign
  return if marks.isEmpty then t else .unfit

def disjunction : Parser Target := operands (negation g) (word "and" <|> word "or")

/-- The parameters of a function with a name have annotations. -/
def annotation (isNamed : Bool) (p : Parser Unit) : Parser Unit := do
  if isNamed then if ← has (sign ":") then p

def parameter (isNamed : Bool) : Parser Parameter := do
  if ← has (sign "/") then return .slash
  else if ← has (sign "**") then
    name
    annotation isNamed (discard (g .expression))
    return .doubleStar
  else if ← has (sign "*") then
    if ← has name then
      annotation isNamed (discard (bareItem g))
      return .star true
    else return .star false
  else
    name
    annotation isNamed (discard (g .expression))
    if ← has (sign "=") then
      discard (g .expression)
      return .plain true
    else return .plain false

def parameters (isNamed : Bool) : Parser Unit :=
  (do
    let (ps, _) ← listed (parameter g isNamed)
    guard (Parameter.areOrdered ps)) <|> return ()

def lambda : Parser Target := do
  word "lambda"
  parameters g false
  sign ":"
  discard (g .expression)
  return .unfit

def expression : Parser Target := lambda g <|> do
  let t ← disjunction g
  if ← has (word "if") then
    discard (disjunction g)
    word "else"
    discard (g .expression)
    return .unfit
  else return t

def operand : Parser Target :=
  operands
    (do
      let signs ← many (signOf ["+", "-", "~"])
      let awaits ← has (word "await")
      let t ← g .primary
      return if signs.isEmpty && !awaits then t else .unfit)
    (signOf arithmeticSigns)

def targetItem : Parser Item := do
  let isStarred ← has (sign "*")
  let target ← g .primary
  guard (target != .unfit)
  return ⟨isStarred, target⟩

def targets : Parser Unit := discard (listed (targetItem g))

def loops : Parser Unit := discard <| oneOrMore do
  discard (has (word "async"))
  word "for"
  targets g
  word "in"
  discard (disjunction g)
  many do word "if"; disjunction g

def argument : Parser Argument := do
  if ← has (sign "**") then
    discard (g .expression)
    return .doubleStar
  else if ← has (sign "*") then
    discard (g .expression)
    return .star
  else if ← has (do name; sign "=") then
    discard (g .expression)
    return .keyword
  else
    discard (namedExpression g)
    return .plain

/-- Arguments up to the closing parenthesis; a comprehension without brackets of its own is the
only one of a call. -/
def arguments (isCall : Bool) : Parser Unit := do
  unless ← has (sign ")") do
    let first ← argument g
    if isCall && first == .plain && (← startsLoop) then loops g
    else
      let others ← many do sign ","; argument g
      discard (has (sign ","))
      guard (Argument.areOrdered (first :: others))
    sign ")"

def bounds : Parser Unit := do
  sign ":"
  discard (has (g .expression))
  if ← has (sign ":") then discard (has (g .expression))

def subscript : Parser Unit := do
  if ← has (sign "*") then discard (g .expression)
  else unless ← has (bounds g) do
    let (isNamed, _) ← namedExpression g
    unless isNamed do discard (has (bounds g))

/-- What may follow a primary: the name of a member, a subscript, or arguments. -/
def trailer : Parser Target :=
  (do sign "."; name; return .single)
    <|> (do sign "["; discard (listed (subscript g)); sign "]"; return .single)
    <|> (do sign "("; arguments g true; return .unfit)

def itemsAfter (first : Item) (closer : String) : Parser (List Item × Bool) := do
  let others ← many do sign ","; bracketItem g
  let comma ← has (sign ",")
  sign closer
  return (first :: others, comma || !others.isEmpty)

def parenthesis : Parser Target := do
  if ← has (sign ")") then return .several false
  else if ← has (yieldExpression g) then
    sign ")"
    return .unfit
  else
    let first ← bracketItem g
    if !first.isStarred && (← startsLoop) then
      loops g
      sign ")"
      return .unfit
    else match ← itemsAfter g first ")" with
      | ([⟨isStarred, t⟩], false) =>
        guard !isStarred
        return t
      | (items, _) => return listTarget items

def squareBracket : Parser Target := do
  if ← has (sign "]") then return .several false
  else
    let first ← bracketItem g
    if !first.isStarred && (← startsLoop) then
      loops g
      sign "]"
      return .unfit
    else return listTarget (← itemsAfter g first "]").1

def entry : Parser Unit := do
  if ← has (sign "**") then discard (g .operand)
  else
    discard (g .expression)
    sign ":"
    discard (g .expression)

def entriesAfter : Parser Unit := do
  discard (many do sign ","; entry g)
  discard (has (sign ","))
  sign "\x7d"

def brace : Parser Unit := do
  if ← has (sign "\x7d") then return
  else if ← has (do sign "**"; g .operand) then entriesAfter g
  else if ← has (starredOperand g) then discard (itemsAfter g ⟨true, .unfit⟩ "\x7d")
  else
    let (isNamed, _) ← namedExpression g
    let isEntry ← if isNamed then pure false else has (do sign ":"; g .expression)
    if ← startsLoop then
      loops g
      sign "\x7d"
    else if isEntry then entriesAfter g
    else discard (itemsAfter g ⟨false, .unfit⟩ "\x7d")

/-- Whether the text of a replacement field is an expression, when put in parentheses. -/
def isField (cs : List Char) : Bool :=
  match tokens? ('(' :: cs ++ [')']) with
  | none => false
  | some ts =>
    match expressions g ts with
    | some (_, [.lineEnd]) => true
    | _ => false

/-- Literals one after another are one; bytes and texts do not mix. -/
def literals : Parser Unit := do
  let parts ← oneOrMore <| take fun
    | .text isBytes fields => some (isBytes, fields)
    | _ => none
  guard (parts.all (·.1) || parts.all (!·.1))
  guard (parts.all fun (_, fields) => fields.all (isField g))

def constants : List String := ["None", "True", "False"]

def plainAtom : Parser Target := take fun
  | .word w => if isName w then some .single else if constants.contains w then some .unfit else none
  | .number _ | .sign "..." => some .unfit
  | _ => none

def atom : Parser Target :=
  plainAtom
    <|> (do literals g; return .unfit)
    <|> (do sign "("; parenthesis g)
    <|> (do sign "["; squareBracket g)
    <|> (do sign "\x7b"; brace g; return .unfit)

def primary : Parser Target := do
  let first ← atom g
  return (← many (trailer g)).getLast?.getD first

def phrase : Phrase → Parser Target
  | .expression => expression g
  | .operand => operand g
  | .primary => primary g

/-- The grammar to a depth of nesting. -/
def grammar : (depth : Nat) → Grammar
  | 0, _ => failure
  | depth + 1, p => phrase (grammar depth) p

end SmithyGen.Code
