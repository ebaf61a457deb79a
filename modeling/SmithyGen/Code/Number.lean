namespace SmithyGen.Code

/-- Digits with single underscores between them, and the text after them. -/
def digits? (isDigit : Char → Bool) : List Char → Option (List Char × List Char)
  | [] => none
  | c :: '_' :: cs =>
    if isDigit c then (digits? isDigit cs).map fun (ds, rest) => (c :: ds, rest) else none
  | c :: cs =>
    if !isDigit c then none
    else if cs.head?.any isDigit then
      (digits? isDigit cs).map fun (ds, rest) => (c :: ds, rest)
    else some ([c], cs)

def isBinaryDigit (c : Char) : Bool := c == '0' || c == '1'

def isOctalDigit (c : Char) : Bool := '0' ≤ c && c ≤ '7'

def isHexDigit (c : Char) : Bool :=
  c.isDigit || ('a' ≤ c && c ≤ 'f') || ('A' ≤ c && c ≤ 'F')

/-- The digits that a letter after a zero asks for. -/
def digitsOfBase? : Char → Option (Char → Bool)
  | 'b' | 'B' => some isBinaryDigit
  | 'o' | 'O' => some isOctalDigit
  | 'x' | 'X' => some isHexDigit
  | _ => none

def fraction? : List Char → Option (Bool × List Char)
  | '.' :: cs =>
    if cs.head?.any Char.isDigit then (digits? Char.isDigit cs).map fun (_, rest) => (true, rest)
    else some (true, cs)
  | cs => some (false, cs)

/-- An exponent has digits, which a sign calls for. -/
def exponent? : List Char → Option (Bool × List Char)
  | [] => some (false, [])
  | c :: cs =>
    if c == 'e' || c == 'E' then
      if cs.head?.any fun s => s == '+' || s == '-' then
        (digits? Char.isDigit (cs.drop 1)).map fun (_, rest) => (true, rest)
      else if cs.head?.any Char.isDigit then
        (digits? Char.isDigit cs).map fun (_, rest) => (true, rest)
      else some (false, c :: cs)
    else some (false, c :: cs)

def imaginaryMark : List Char → Bool × List Char
  | 'j' :: cs | 'J' :: cs => (true, cs)
  | cs => (false, cs)

/-- Integers have at most so many decimal digits. -/
def integerDigits : Nat := 4300

/-- A decimal integer starts with a zero only if it is zero. -/
def isInteger (digits : List Char) : Bool :=
  if digits.head? == some '0' then digits.all (· == '0') else digits.length ≤ integerDigits

def wordsAfterNumber : List String := ["and", "else", "for", "if", "in", "is", "not", "or"]

def isWordChar (c : Char) : Bool := c.isAlphanum || c == '_' || 128 ≤ c.toNat

def endsNumber (cs : List Char) : Bool :=
  let word := cs.takeWhile isWordChar
  word.isEmpty || wordsAfterNumber.contains (String.ofList word)

/-- A decimal number, from its whole digits on; whether it is imaginary, and the text after it. -/
def decimal? (whole rest : List Char) : Option (Bool × List Char) := do
  let (hasFraction, rest) ← fraction? rest
  let (hasExponent, rest) ← exponent? rest
  let (isImaginary, rest) := imaginaryMark rest
  guard (hasFraction || hasExponent || isImaginary || isInteger whole)
  return (isImaginary, rest)

def numberBody? : List Char → Option (Bool × List Char)
  | '0' :: c :: cs =>
    match digitsOfBase? c with
    | some isDigit =>
      (digits? isDigit (if cs.head? == some '_' then cs.drop 1 else cs)).map
        fun (_, rest) => (false, rest)
    | none => do
      let (whole, rest) ← digits? Char.isDigit ('0' :: c :: cs)
      decimal? whole rest
  | '.' :: cs => decimal? [] ('.' :: cs)
  | cs => do
    let (whole, rest) ← digits? Char.isDigit cs
    decimal? whole rest

def number? (cs : List Char) : Option (Bool × List Char) := do
  let (isImaginary, rest) ← numberBody? cs
  guard (endsNumber rest)
  return (isImaginary, rest)

end SmithyGen.Code
