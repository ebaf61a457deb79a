import SmithyGen.Number.Reading
import SmithyGen.Value

namespace SmithyGen.Json

inductive Problem where
  | byteOrderMark
  | value
  | extraData
  | name
  | colon
  | comma
  | unterminated
  | control
  | escape
  | codeEscape
  | digits (count : Nat)
deriving DecidableEq, Repr

def Problem.text : Problem → String
  | .byteOrderMark => "Unexpected UTF-8 BOM (decode using utf-8-sig)"
  | .value => "Expecting value"
  | .extraData => "Extra data"
  | .name => "Expecting property name enclosed in double quotes"
  | .colon => "Expecting ':' delimiter"
  | .comma => "Expecting ',' delimiter"
  | .unterminated => "Unterminated string starting at"
  | .control => "Invalid control character at"
  | .escape => "Invalid \\escape"
  | .codeEscape => "Invalid \\uXXXX escape"
  | .digits count =>
    "Exceeds the limit (4300 digits) for integer string conversion: value has " ++ toString count
      ++ " digits; use sys.set_int_max_str_digits() to increase the limit"

/-- A problem met when so many characters remained. -/
structure Trouble where
  problem : Problem
  remaining : Nat
deriving DecidableEq, Repr

def isSpace (c : Char) : Bool := c == ' ' || c == '\t' || c == '\n' || c == '\r'

def skip (cs : List Char) : List Char := cs.dropWhile isSpace

def hexValue? (c : Char) : Option Nat :=
  if c.isDigit then some (c.toNat - 48)
  else if 'a' ≤ c && c ≤ 'f' then some (c.toNat - 87)
  else if 'A' ≤ c && c ≤ 'F' then some (c.toNat - 55)
  else none

def hex4? (a b c d : Char) : Option Nat := do
  let a ← hexValue? a
  let b ← hexValue? b
  let c ← hexValue? c
  let d ← hexValue? d
  return ((a * 16 + b) * 16 + c) * 16 + d

def shortEscape? : Char → Option Nat
  | '"' => some 34
  | '\\' => some 92
  | '/' => some 47
  | 'b' => some 8
  | 'f' => some 12
  | 'n' => some 10
  | 'r' => some 13
  | 't' => some 9
  | _ => none

def isHighSurrogate (n : Nat) : Bool := 0xD800 ≤ n && n < 0xDC00

def isLowSurrogate (n : Nat) : Bool := 0xDC00 ≤ n && n < 0xE000

/-- An unpaired surrogate is no character and reads as the replacement character. -/
def unitChar (n : Nat) : Char :=
  if isHighSurrogate n || isLowSurrogate n then Char.ofNat 0xFFFD else Char.ofNat n

/-- Code units to characters: a high surrogate and the low one after it are one character. -/
def joinUnits : List Nat → List Char
  | [] => []
  | [n] => [unitChar n]
  | hi :: lo :: ns =>
    if isHighSurrogate hi && isLowSurrogate lo then
      Char.ofNat (0x10000 + (hi - 0xD800) * 0x400 + (lo - 0xDC00)) :: joinUnits ns
    else unitChar hi :: joinUnits (lo :: ns)

/-- The code units of a string after its opening quote, at which `opening` characters remained. -/
def stringUnits (opening : Nat) : List Char → Except Trouble (List Nat × List Char)
  | [] => .error ⟨.unterminated, opening⟩
  | '"' :: cs => .ok ([], cs)
  | '\\' :: 'u' :: a :: b :: c :: d :: e :: cs =>
    match hex4? a b c d with
    | some n => (stringUnits opening (e :: cs)).map fun (ns, rest) => (n :: ns, rest)
    | none => .error ⟨.codeEscape, cs.length + 6⟩
  | '\\' :: 'u' :: cs => .error ⟨.codeEscape, cs.length + 1⟩
  | ['\\'] => .error ⟨.unterminated, opening⟩
  | '\\' :: c :: cs =>
    match shortEscape? c with
    | some n => (stringUnits opening cs).map fun (ns, rest) => (n :: ns, rest)
    | none => .error ⟨.escape, cs.length + 2⟩
  | c :: cs =>
    if c.toNat < 32 then .error ⟨.control, cs.length + 1⟩
    else (stringUnits opening cs).map fun (ns, rest) => (c.toNat :: ns, rest)

def string (cs : List Char) : Except Trouble (String × List Char) :=
  (stringUnits (cs.length + 1) cs).map fun (ns, rest) => (String.ofList (joinUnits ns), rest)

def digitsOf (cs : List Char) : List Nat := cs.map (·.toNat - 48)

/-- The digits of a fraction; a point without digits belongs to what follows the number. -/
def fraction? : List Char → Option (List Char × List Char)
  | '.' :: cs =>
    let ds := cs.takeWhile Char.isDigit
    if ds.isEmpty then none else some (ds, cs.dropWhile Char.isDigit)
  | _ => none

def exponent? : List Char → Option (Int × List Char)
  | c :: cs =>
    if c == 'e' || c == 'E' then
      let (negative, cs) := Number.sign cs
      let ds := cs.takeWhile Char.isDigit
      let n : Int := Number.ofDigits (digitsOf ds)
      if ds.isEmpty then none else some (if negative then -n else n, cs.dropWhile Char.isDigit)
    else none
  | [] => none

def number (cs : List Char) : Except Trouble (Value × List Char) :=
  let (negative, digits) : Bool × List Char := match cs with
    | '-' :: rest => (true, rest)
    | _ => (false, cs)
  let whole := match digits with
    | '0' :: _ => ['0']
    | _ => digits.takeWhile Char.isDigit
  let rest := digits.drop whole.length
  if whole.isEmpty then .error ⟨.value, cs.length⟩
  else match fraction? rest, exponent? ((fraction? rest).elim rest (·.2)) with
    | none, none =>
      if Number.digitLimit < whole.length then .error ⟨.digits whole.length, rest.length⟩
      else
        let n : Int := Number.ofDigits (digitsOf whole)
        .ok (.int (if negative then -n else n), rest)
    | frac, power =>
      let part := frac.elim [] (·.1)
      let e := power.elim 0 (·.1)
      let rest := power.elim (frac.elim rest (·.2)) (·.2)
      .ok (.float (.ofDecimal negative (Number.ofDigits (digitsOf (whole ++ part))) (e - part.length)),
        rest)

mutual

/-- A value; the fuel bounds the nesting and the number of parts. -/
def value : (fuel : Nat) → List Char → Except Trouble (Value × List Char)
  | 0, cs => .error ⟨.value, cs.length⟩
  | fuel + 1, cs =>
    match cs with
    | '"' :: cs => (string cs).map fun (s, rest) => (.str s, rest)
    | '\x7b' :: cs =>
      match skip cs with
      | '\x7d' :: rest => .ok (.map [], rest)
      | cs => (fields fuel cs).map fun (es, rest) => (.map (Entries.ofList es), rest)
    | '[' :: cs =>
      match skip cs with
      | ']' :: rest => .ok (.list [], rest)
      | cs => (elements fuel cs).map fun (vs, rest) => (.list vs, rest)
    | 'n' :: 'u' :: 'l' :: 'l' :: rest => .ok (.null, rest)
    | 't' :: 'r' :: 'u' :: 'e' :: rest => .ok (.bool true, rest)
    | 'f' :: 'a' :: 'l' :: 's' :: 'e' :: rest => .ok (.bool false, rest)
    | 'N' :: 'a' :: 'N' :: rest => .ok (.float .nan, rest)
    | 'I' :: 'n' :: 'f' :: 'i' :: 'n' :: 'i' :: 't' :: 'y' :: rest => .ok (.float (.infinite false), rest)
    | '-' :: 'I' :: 'n' :: 'f' :: 'i' :: 'n' :: 'i' :: 't' :: 'y' :: rest =>
      .ok (.float (.infinite true), rest)
    | cs => number cs

def elements : (fuel : Nat) → List Char → Except Trouble (List Value × List Char)
  | 0, cs => .error ⟨.value, cs.length⟩
  | fuel + 1, cs => do
    let (v, rest) ← value fuel cs
    match skip rest with
    | ']' :: rest => .ok ([v], rest)
    | ',' :: rest =>
      let (vs, rest) ← elements fuel (skip rest)
      .ok (v :: vs, rest)
    | rest => .error ⟨.comma, rest.length⟩

def fields : (fuel : Nat) → List Char → Except Trouble (List (String × Value) × List Char)
  | 0, cs => .error ⟨.value, cs.length⟩
  | fuel + 1, cs =>
    match cs with
    | '"' :: cs => do
      let (k, rest) ← string cs
      match skip rest with
      | ':' :: rest =>
        let (v, rest) ← value fuel (skip rest)
        match skip rest with
        | '\x7d' :: rest => .ok ([(k, v)], rest)
        | ',' :: rest =>
          let (es, rest) ← fields fuel (skip rest)
          .ok ((k, v) :: es, rest)
        | rest => .error ⟨.comma, rest.length⟩
      | rest => .error ⟨.colon, rest.length⟩
    | cs => .error ⟨.name, cs.length⟩

end

def document (cs : List Char) : Except Trouble Value :=
  match cs with
  | '\uFEFF' :: _ => .error ⟨.byteOrderMark, cs.length⟩
  | _ => do
    let (v, rest) ← value (2 * cs.length + 2) (skip cs)
    match skip rest with
    | [] => .ok v
    | rest => .error ⟨.extraData, rest.length⟩

/-- Why a text is no JSON: a problem and where it was met, lines and columns counted from one. -/
inductive Error where
  | malformed (problem : Problem) (line column offset : Nat)
  | tooManyDigits (count : Nat)
deriving DecidableEq, Repr

def Error.message : Error → String
  | .malformed problem line column offset =>
    problem.text ++ ": line " ++ toString line ++ " column " ++ toString column ++ " (char "
      ++ toString offset ++ ")"
  | .tooManyDigits count => (Problem.digits count).text

def Trouble.locate (cs : List Char) (t : Trouble) : Error :=
  match t.problem with
  | .digits count => .tooManyDigits count
  | problem =>
    let offset := cs.length - t.remaining
    let before := cs.take offset
    .malformed problem (before.count '\n' + 1) ((before.reverse.takeWhile (· != '\n')).length + 1)
      offset

def decode (text : String) : Except Error Value :=
  (document text.toList).mapError (·.locate text.toList)

end SmithyGen.Json
