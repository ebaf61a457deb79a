import SmithyGen.Code.Number

namespace SmithyGen.Code

/-- What the letters before the quote of a literal ask for. -/
structure LiteralMark where
  raw : Bool := false
  bytes : Bool := false
  formatted : Bool := false

def literalMark? (word : List Char) : Option LiteralMark :=
  match String.ofList (word.map Char.toLower) with
  | "" | "u" => some {}
  | "r" => some { raw := true }
  | "b" => some { bytes := true }
  | "f" => some { formatted := true }
  | "br" | "rb" => some { raw := true, bytes := true }
  | "fr" | "rf" => some { raw := true, formatted := true }
  | _ => none

/-- What stands up to the closing quote, which ends on the same line, and what follows it. -/
def lineBody? (quote : Char) : List Char → Option (List Char × List Char)
  | [] => none
  | '\\' :: c :: cs => (lineBody? quote cs).map fun (body, rest) => ('\\' :: c :: body, rest)
  | c :: cs =>
    if c == quote then some ([], cs)
    else if c == '\n' then none
    else (lineBody? quote cs).map fun (body, rest) => (c :: body, rest)

def longBody? (quote : Char) : List Char → Option (List Char × List Char)
  | [] => none
  | '\\' :: c :: cs => (longBody? quote cs).map fun (body, rest) => ('\\' :: c :: body, rest)
  | c :: cs =>
    if c == quote && cs.take 2 == [quote, quote] then some ([], cs.drop 2)
    else (longBody? quote cs).map fun (body, rest) => (c :: body, rest)

def isQuote (c : Char) : Bool := c == '"' || c == '\''

def literalBody? : List Char → Option (List Char × List Char)
  | [] => none
  | c :: cs =>
    if !isQuote c then none
    else if cs.take 2 == [c, c] then longBody? c (cs.drop 2)
    else lineBody? c cs

def startsHex (n : Nat) (cs : List Char) : Bool :=
  (cs.take n).length == n && (cs.take n).all isHexDigit

def hexValue (cs : List Char) : Nat :=
  cs.foldl (fun n c => 16 * n + (if c.isDigit then c.toNat - 48 else c.toLower.toNat - 87)) 0

/-- A name between braces. That there is a character of this name is taken on trust. -/
def startsCharName : List Char → Bool
  | '\x7b' :: cs => !(cs.takeWhile (· != '\x7d')).isEmpty && cs.contains '\x7d'
  | _ => false

/-- Whether every escape that needs digits or a name has them. Bytes have only one such escape. -/
def hasSoundEscapes (bytes : Bool) : List Char → Bool
  | [] => true
  | '\\' :: 'x' :: cs => startsHex 2 cs && hasSoundEscapes bytes cs
  | '\\' :: 'u' :: cs => (bytes || startsHex 4 cs) && hasSoundEscapes bytes cs
  | '\\' :: 'U' :: cs =>
    (bytes || (startsHex 8 cs && hexValue (cs.take 8) ≤ 0x10ffff)) && hasSoundEscapes bytes cs
  | '\\' :: 'N' :: cs => (bytes || startsCharName cs) && hasSoundEscapes bytes cs
  | '\\' :: _ :: cs => hasSoundEscapes bytes cs
  | _ :: cs => hasSoundEscapes bytes cs

/-- Characters that end the expression of a replacement field, outside of brackets and literals. -/
def endsExpression (c : Char) (cs : List Char) : Bool :=
  c == ':' || c == '\x7d' || ((c == '!' || c == '=') && cs.head? != some '=')

def closing? : Char → Option Char
  | '(' => some ')'
  | '[' => some ']'
  | '\x7b' => some '\x7d'
  | _ => none

def isClosing (c : Char) : Bool := c == ')' || c == ']' || c == '\x7d'

def bracketDepth : Nat := 200

/-- Where a scan of a replacement field stands: in a literal that ends with some quotes, if these
are not empty, and in brackets still to be closed. `skip` counts characters passed over. -/
structure FieldScan where
  skip : Nat := 0
  quotes : List Char := []
  closers : List Char := []

def FieldScan.add (s : FieldScan) (c : Char) (cs : List Char) : Option FieldScan :=
  if c == '\\' then none
  else if !s.quotes.isEmpty then
    if (c :: cs).take s.quotes.length == s.quotes then
      some { s with quotes := [], skip := s.quotes.length - 1 }
    else some s
  else if isQuote c then
    if cs.take 2 == [c, c] then some { s with quotes := [c, c, c], skip := 2 }
    else some { s with quotes := [c] }
  else if c == '#' then none
  else match closing? c with
    | some closer =>
      if s.closers.length < bracketDepth then some { s with closers := closer :: s.closers } else none
    | none =>
      if isClosing c then
        match s.closers with
        | closer :: closers => if closer == c then some { s with closers } else none
        | [] => none
      else if s.closers.isEmpty && cs.head? == some '=' && (c == '!' || c == '=' || c == '<' || c == '>')
      then some { s with skip := 1 }
      else some s

/-- The expression of a replacement field, and the text from the character that ends it. -/
def fieldExpression? : FieldScan → List Char → Option (List Char × List Char)
  | _, [] => none
  | s, c :: cs =>
    match s.skip with
    | n + 1 =>
      (fieldExpression? { s with skip := n } cs).map fun (body, rest) => (c :: body, rest)
    | 0 =>
      if s.quotes.isEmpty && s.closers.isEmpty && endsExpression c cs then some ([], c :: cs)
      else do
        let (body, rest) ← fieldExpression? (← s.add c cs) cs
        return (c :: body, rest)

def isFieldBlank (c : Char) : Bool := c == ' ' || c == '\t' || c == '\n' || c == '\x0c'

/-- After an expression there may be a sign to show its text, and a conversion. -/
def afterExpression? (cs : List Char) : Option (List Char) :=
  let cs := match cs with
    | '=' :: rest => rest.dropWhile fun c => isFieldBlank c || c == '\x0b'
    | _ => cs
  match cs with
  | '!' :: c :: rest => if c == 's' || c == 'r' || c == 'a' then some rest else none
  | '!' :: [] => none
  | _ => some cs

/-- The expressions of all replacement fields, up to the end of the text, or inside of a format
specification up to its end. Specifications have fields of their own, but not those in turn. -/
def fieldsFrom (raw : Bool) : (fuel depth : Nat) → List Char → Option (List (List Char) × List Char)
  | 0, _, _ => none
  | _ + 1, depth, [] => if depth == 0 then some ([], []) else none
  | fuel + 1, depth, c :: cs =>
    if c == '\\' && !raw && cs.take 2 == ['N', '\x7b'] then
      fieldsFrom raw fuel depth ((cs.dropWhile (· != '\x7d')).drop 1)
    else if c == '\\' && !raw && !(cs.head?.any fun d => d == '\x7b' || d == '\x7d') then
      fieldsFrom raw fuel depth (cs.drop 1)
    else if (c == '\x7b' || c == '\x7d') && depth == 0 && cs.head? == some c then
      fieldsFrom raw fuel depth (cs.drop 1)
    else if c == '\x7d' then if depth == 0 then none else some ([], c :: cs)
    else if c != '\x7b' then fieldsFrom raw fuel depth cs
    else if 2 ≤ depth then none
    else do
      let (expression, rest) ← fieldExpression? {} cs
      guard (expression.any (!isFieldBlank ·))
      let rest ← afterExpression? rest
      let (inner, rest) ← match rest with
        | ':' :: spec => fieldsFrom raw fuel (depth + 1) spec
        | _ => some ([], rest)
      match rest with
      | '\x7d' :: rest =>
        let (others, rest) ← fieldsFrom raw fuel depth rest
        return (expression :: inner ++ others, rest)
      | _ => none

def fields? (raw : Bool) (body : List Char) : Option (List (List Char)) :=
  (fieldsFrom raw (body.length + 1) 0 body).map (·.1)

/-- The expressions in a literal with this body, if it is a sound one. -/
def literalFields? (mark : LiteralMark) (body : List Char) : Option (List (List Char)) := do
  guard (mark.raw || hasSoundEscapes mark.bytes body)
  guard (!mark.bytes || body.all (·.toNat < 128))
  if mark.formatted then fields? mark.raw body else return []

end SmithyGen.Code
