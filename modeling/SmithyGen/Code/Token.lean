import SmithyGen.Code.Literal
import SmithyGen.Text.IdentChar

namespace SmithyGen.Code

inductive Token where
  | word (text : String)
  | number (isImaginary : Bool)
  /-- The expressions are those of its replacement fields. -/
  | text (isBytes : Bool) (expressions : List (List Char))
  | sign (text : String)
  | lineEnd
  | blockStart
  | blockEnd
deriving DecidableEq, Repr

inductive Lexeme where
  | token (t : Token)
  | blank (c : Char)
  | comment
  | joinedLine
  | lineBreak

def isBlank (c : Char) : Bool := c == ' ' || c == '\t' || c == '\x0c'

def longSigns : List String :=
  ["...", "**=", "//=", "<<=", ">>=", "!=", "%=", "&=", "**", "*=", "+=", "-=", "->", "//", "/=",
   ":=", "<<", "<=", "==", ">=", ">>", "@=", "^=", "|="]

def shortSigns : List Char :=
  ['%', '&', '(', ')', '*', '+', ',', '-', '.', '/', ':', ';', '<', '=', '>', '@', '[', ']', '^',
   '\x7b', '|', '\x7d', '~']

/-- The longest sign that starts a text. -/
def sign? (cs : List Char) : Option (String × List Char) :=
  match longSigns.find? fun s => s.toList.isPrefixOf cs with
  | some s => some (s, cs.drop s.length)
  | none =>
    match cs with
    | c :: rest => if shortSigns.contains c then some (c.toString, rest) else none
    | [] => none

def literal? (mark : LiteralMark) (cs : List Char) : Option (Token × List Char) := do
  let (body, rest) ← literalBody? cs
  return (.text mark.bytes (← literalFields? mark body), rest)

def wordOrLiteral? (cs : List Char) : Option (Token × List Char) :=
  let word := cs.takeWhile isWordChar
  let rest := cs.dropWhile isWordChar
  match if rest.head?.any isQuote then literalMark? word else none with
  | some mark => literal? mark rest
  | none => if Text.isIdentifier word then some (.word (String.ofList word), rest) else none

def startsNumber : List Char → Bool
  | '.' :: cs => cs.head?.any Char.isDigit
  | cs => cs.head?.any Char.isDigit

def token? (cs : List Char) : Option (Token × List Char) :=
  if startsNumber cs then (number? cs).map fun (isImaginary, rest) => (.number isImaginary, rest)
  else if cs.head?.any fun c => isQuote c || isWordChar c then wordOrLiteral? cs
  else (sign? cs).map fun (s, rest) => (.sign s, rest)

/-- The lexeme that starts a text. A line is joined to another one, not to the end of the text. -/
def lexeme? : List Char → Option (Lexeme × List Char)
  | [] => none
  | c :: cs =>
    if c == '\n' then some (.lineBreak, cs)
    else if isBlank c then some (.blank c, cs)
    else if c == '#' then some (.comment, cs.dropWhile (· != '\n'))
    else if c == '\\' then
      match cs with
      | '\n' :: rest => if rest.isEmpty then none else some (.joinedLine, rest)
      | _ => none
    else (token? (c :: cs)).map fun (t, rest) => (.token t, rest)

/-- The blanks before a line, where tabs go to the next multiple of eight and, counted narrowly,
are one blank. Of joined lines the first blanks count. -/
structure Margin where
  wide : Nat := 0
  narrow : Nat := 0
  joined : Nat := 0

namespace Margin

def add (m : Margin) (c : Char) : Margin :=
  if c == '\t' then { m with wide := (m.wide / 8 + 1) * 8, narrow := m.narrow + 1 }
  else if c == '\x0c' then { m with wide := 0, narrow := 0 }
  else { m with wide := m.wide + 1, narrow := m.narrow + 1 }

def join (m : Margin) : Margin := if m.joined == 0 then { m with joined := m.wide } else m

def widths (m : Margin) : Nat × Nat :=
  if m.joined == 0 then (m.wide, m.narrow) else (m.joined, m.joined)

end Margin

/-- Brackets still to be closed, margins of the open blocks, the blanks so far where a line starts,
and the tokens found, last first. -/
structure Outline where
  closers : List Char := []
  margins : List (Nat × Nat) := []
  margin : Option Margin := some {}
  tokens : List Token := []

namespace Outline

/-- Blocks nest to less than this depth. -/
def blockDepth : Nat := 100

def push (o : Outline) (t : Token) : Outline := { o with tokens := t :: o.tokens }

def leaveBlocks (wide : Nat) : List (Nat × Nat) → List Token → List (Nat × Nat) × List Token
  | [], tokens => ([], tokens)
  | m :: ms, tokens => if wide < m.1 then leaveBlocks wide ms (.blockEnd :: tokens) else (m :: ms, tokens)

/-- Starts a line at its margin. A margin has to be an open one or wider than all of them, whichever
way tabs are counted. -/
def startLine (o : Outline) (m : Margin) : Option Outline :=
  let (wide, narrow) := m.widths
  let innermost := o.margins.headD (0, 0)
  if innermost.1 < wide then
    if innermost.2 < narrow && o.margins.length + 1 < blockDepth then
      some { o with margin := none, margins := (wide, narrow) :: o.margins,
                    tokens := .blockStart :: o.tokens }
    else none
  else
    let (margins, tokens) := leaveBlocks wide o.margins o.tokens
    if margins.headD (0, 0) == (wide, narrow) then some { o with margin := none, margins, tokens }
    else none

def addToken (o : Outline) (t : Token) : Option Outline :=
  match t with
  | .sign s =>
    match s.toList with
    | [c] =>
      match closing? c with
      | some closer =>
        if o.closers.length < bracketDepth then some { o.push t with closers := closer :: o.closers }
        else none
      | none =>
        if isClosing c then
          match o.closers with
          | closer :: closers => if closer == c then some { o.push t with closers } else none
          | [] => none
        else some (o.push t)
    | _ => some (o.push t)
  | _ => some (o.push t)

def add (o : Outline) : Lexeme → Option Outline
  | .blank c => some { o with margin := o.margin.map (·.add c) }
  | .joinedLine => some { o with margin := o.margin.map Margin.join }
  | .comment => some o
  | .lineBreak =>
    if !o.closers.isEmpty then some o
    else if o.margin.isSome then some { o with margin := some {} }
    else some { o.push .lineEnd with margin := some {} }
  | .token t =>
    match o.margin with
    | some m => (o.startLine m).bind (·.addToken t)
    | none => o.addToken t

/-- The tokens in their order; the blocks still open end here. -/
def finish? (o : Outline) : Option (List Token) :=
  if o.closers.isEmpty && o.margin.isSome then
    some ((leaveBlocks 0 o.margins o.tokens).2.reverse)
  else none

end Outline

/-- Adds lexeme after lexeme; each takes at least one character, so that `fuel` is enough if it is
the length of the text. -/
def outlineFrom : (fuel : Nat) → Outline → List Char → Option Outline
  | _, o, [] => some o
  | 0, _, _ :: _ => none
  | fuel + 1, o, cs =>
    match lexeme? cs with
    | some (l, rest) =>
      match o.add l with
      | some o' => outlineFrom fuel o' rest
      | none => none
    | none => none

/-- One more character before the text read so far, last first: a carriage return ends a line, alone
or with the line feed after it. -/
def addNormal (text : List Char × Bool) (c : Char) : List Char × Bool :=
  if c == '\r' then ('\n' :: text.1, true)
  else if c == '\n' && text.2 then (text.1, false)
  else (c :: text.1, false)

def normalLines (cs : List Char) : List Char :=
  let text := (cs.foldl addNormal ([], false)).1
  (if text.head? == some '\n' then text else '\n' :: text).reverse

/-- The tokens of a text; none stands for a text with a stray character, an open literal or bracket
or a margin that fits none. -/
def tokens? (cs : List Char) : Option (List Token) :=
  if cs.contains '\x00' then none
  else
    let cs := normalLines cs
    (outlineFrom cs.length {} cs).bind Outline.finish?

end SmithyGen.Code
