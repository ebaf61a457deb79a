import SmithyGen.Template.Problem
import SmithyGen.Text.DigitChar

namespace SmithyGen.Template

/-- The least number that is too large for a template. -/
def numberLimit : Nat := 9223372036854775808

/-- Digits of any script at the start of a text, as a number. -/
def number? (acc : Nat) : List Char → Except Problem (Nat × List Char)
  | [] => .ok (acc, [])
  | c :: cs =>
    match Text.digitValue? c with
    | none => .ok (acc, c :: cs)
    | some d => if numberLimit ≤ 10 * acc + d then .error .tooManyDigits else number? (10 * acc + d) cs

def number (cs : List Char) : Except Problem (Option Nat × List Char) :=
  (number? 0 cs).map fun (n, rest) => (if rest.length < cs.length then some n else none, rest)

inductive Align where
  | left
  | right
  | center
  | afterSign
deriving DecidableEq, Repr

def Align.ofChar? : Char → Option Align
  | '<' => some .left
  | '>' => some .right
  | '^' => some .center
  | '=' => some .afterSign
  | _ => none

/-- How a value is written. Without a code the kind of value decides. -/
structure Spec where
  fill : Char := ' '
  align : Align
  sign : Option Char := none
  positiveZero : Bool := false
  alternate : Bool := false
  width : Option Nat := none
  separator : Option Char := none
  precision : Option Nat := none
  code : Option Char := none
deriving DecidableEq, Repr

namespace Spec

/-- A fill is the character before an alignment. -/
def aligned (cs : List Char) : Option Char × Option Align × List Char :=
  match cs with
  | [] => (none, none, [])
  | c :: rest =>
    match rest.head?.bind Align.ofChar?, Align.ofChar? c with
    | some align, _ => (some c, some align, rest.drop 1)
    | none, some align => (none, some align, rest)
    | none, none => (none, none, cs)

def option (allowed : List Char) : List Char → Option Char × List Char
  | [] => (none, [])
  | c :: cs => if allowed.contains c then (some c, cs) else (none, c :: cs)

def separators (cs : List Char) : Except Problem (Option Char × List Char) :=
  let (first, rest) := option [',', '_'] cs
  match first, rest with
  | some ',', '_' :: _ => .error .bothSeparators
  | some '_', ',' :: _ => .error .bothSeparators
  | _, _ => .ok (first, rest)

def precisionOf : List Char → Except Problem (Option Nat × List Char)
  | '.' :: cs => do
    let (n, rest) ← number cs
    if n.isNone then throw .noPrecision
    return (n, rest)
  | cs => .ok (none, cs)

/-- The codes that go with a separator. Digits of other bases are parted by underscores only. -/
def allowsSeparator (separator : Char) : Option Char → Bool
  | none => true
  | some code =>
    "defgEG%F".toList.contains code || separator == '_' && "boxX".toList.contains code

def ofChars (typeName : String) (align : Align) (code : Option Char) (cs : List Char) :
    Except Problem Spec := do
  let (fill, given, rest) := aligned cs
  let (sign, rest) := option [' ', '+', '-'] rest
  let (zero, rest) := option ['z'] rest
  let (alternate, rest) := option ['#'] rest
  let (padded, rest) := if fill.isNone then option ['0'] rest else (none, rest)
  let (width, rest) ← number rest
  let (separator, rest) ← separators rest
  let (precision, rest) ← precisionOf rest
  if 1 < rest.length then throw (.malformedSpec (String.ofList cs) typeName)
  let code := rest.head?.or code
  match separator with
  | some s => if !allowsSeparator s code then throw (.separatorWith s (code.getD ' '))
  | none => pure ()
  let fallback := if padded.isSome && align == .right then .afterSign else align
  return {
    fill := (fill.or padded).getD ' '
    align := given.getD fallback
    sign
    positiveZero := zero.isSome
    alternate := alternate.isSome
    width
    separator
    precision
    code }

end Spec

end SmithyGen.Template
