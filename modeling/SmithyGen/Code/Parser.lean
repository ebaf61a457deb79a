import SmithyGen.Code.Token

namespace SmithyGen.Code

abbrev Parser (α : Type) := StateT (List Token) Option α

namespace Parser

variable {α : Type}

def next? : Parser (Option Token) := fun ts => some (ts.head?, ts)

def take (p : Token → Option α) : Parser α
  | t :: ts => (p t).map fun a => (a, ts)
  | [] => none

def token (t : Token) : Parser Unit := take fun u => if u == t then some () else none

def word (text : String) : Parser Unit := token (.word text)

def sign (text : String) : Parser Unit := token (.sign text)

def has (p : Parser α) : Parser Bool := (do let _ ← p; return true) <|> return false

def repeatFrom (p : Parser α) : (fuel : Nat) → List α → Parser (List α)
  | 0, found => return found.reverse
  | fuel + 1, found => fun ts =>
    match p ts with
    | some (a, ts') => repeatFrom p fuel (a :: found) ts'
    | none => some (found.reverse, ts)

/-- As often as it applies; it has to take a token each time. -/
def many (p : Parser α) : Parser (List α) := fun ts => repeatFrom p ts.length [] ts

def oneOrMore (p : Parser α) : Parser (List α) := do return (← p) :: (← many p)

def separated (text : String) (p : Parser α) : Parser (List α) := do
  return (← p) :: (← many (do sign text; p))

/-- Once or more often, with commas between and maybe one more after them. The flag says whether
there was any. -/
def listed (p : Parser α) : Parser (List α × Bool) := do
  let items ← separated "," p
  let comma ← has (sign ",")
  return (items, comma || 1 < items.length)

end Parser

end SmithyGen.Code
