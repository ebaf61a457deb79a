import SmithyGen.Fault
import SmithyGen.Number.Rounded
import SmithyGen.Template.Spec

namespace SmithyGen.Template

/-- Wider texts are not formed. -/
def widthLimit : Nat := 16777216

def placesLimit : Nat := 100000

namespace Spec

def room (s : Spec) (taken : Nat) : Nat := s.width.getD 0 - taken

def padding (s : Spec) (n : Nat) : List Char := List.replicate n s.fill

def pad (s : Spec) (cs : List Char) : List Char :=
  let room := s.room cs.length
  match s.align with
  | .right => s.padding room ++ cs
  | .center => s.padding (room / 2) ++ cs ++ s.padding (room - room / 2)
  | .left | .afterSign => cs ++ s.padding room

def problem {α : Type} (p : Problem) : Except Fault α := .error (.badValue (.template p))

def fits (s : Spec) : Except Fault Unit :=
  if s.width.any (widthLimit < ·) then .error .tooLarge else .ok ()

def text (s : Spec) (cs : List Char) : Except Fault (List Char) := do
  if s.code != some 's' then problem (.unknownCode (s.code.getD ' ') "str")
  if s.sign == some ' ' then problem .blankInText
  if s.sign.isSome then problem .signInText
  if s.positiveZero then problem .zeroInText
  if s.alternate then problem .alternateInText
  if s.align == .afterSign then problem .alignInText
  s.fits
  return s.pad (s.precision.elim cs cs.take)

end Spec

/-- A number in parts: the mark of its base, its digits before the point, and the rest. -/
structure NumberText where
  negative : Bool := false
  base : List Char := []
  digits : List Char := []
  rest : List Char := []

def NumberText.upperCase (t : NumberText) : NumberText :=
  { t with digits := t.digits.map Char.toUpper, rest := t.rest.map Char.toUpper }

/-- Puts a separator between groups of digits, counted from the right. -/
def separated (separator : Char) (size : Nat) (digits : List Char) : List Char :=
  digits.zipIdx.flatMap fun (c, i) =>
    if i != 0 && (digits.length - i) % size == 0 then [separator, c] else [c]

/-- How many digits, separators among them, are at least so wide: the first digit is none of the
separators. -/
def digitsFor (size width : Nat) : Nat := width - (width - 1) / (size + 1)

namespace Spec

def signText (s : Spec) (negative : Bool) : List Char :=
  if negative then ['-'] else if s.sign == some '+' || s.sign == some ' ' then s.sign.toList else []

def groupSize (s : Spec) : Nat := if s.code.any "boxX".toList.contains then 4 else 3

def grouped (s : Spec) (width : Nat) (digits : List Char) : List Char :=
  match s.separator with
  | none => List.replicate (width - digits.length) '0' ++ digits
  | some separator =>
    let zeros := digitsFor s.groupSize width - digits.length
    separated separator s.groupSize (List.replicate zeros '0' ++ digits)

/-- A number: sign, base, digits and rest, with the padding where the alignment puts it. Zeros after
the sign count as digits. -/
def number (s : Spec) (t : NumberText) : List Char :=
  let front := s.signText t.negative ++ t.base
  let taken := front.length + t.rest.length
  let zeros := if s.fill == '0' && s.align == .afterSign then s.room taken else 0
  let digits := if t.digits.isEmpty then [] else s.grouped zeros t.digits
  let body := digits ++ t.rest
  if s.align == .afterSign then front ++ s.padding (s.room (front.length + body.length)) ++ body
  else s.pad (front ++ body)

def character (s : Spec) (n : Int) : Except Fault (List Char) := do
  if s.sign.isSome then problem .signWithCharacter
  if s.alternate then problem .alternateWithCharacter
  if n < 0 || 0x10FFFF < n then throw .overflow
  s.fits
  return s.number { rest := [Char.ofNat n.toNat] }

/-- An integer in a base; the base is only shown in the alternate form. -/
def inBase (s : Spec) (base : Nat) (mark : List Char) (n : Int) : NumberText :=
  { negative := n < 0, base := if s.alternate then mark else [], digits := Nat.toDigits base n.natAbs }

def integer (s : Spec) (n : Int) : Except Fault (List Char) := do
  if s.precision.isSome then problem .precisionInInteger
  if s.positiveZero then problem .zeroInInteger
  match s.code with
  | some 'c' => s.character n
  | code => do
    s.fits
    return s.number (match code with
      | some 'b' => s.inBase 2 ['0', 'b'] n
      | some 'o' => s.inBase 8 ['0', 'o'] n
      | some 'x' => s.inBase 16 ['0', 'x'] n
      | some 'X' => (s.inBase 16 ['0', 'X'] n).upperCase
      | _ => s.inBase 10 [] n)

def isUpper (s : Spec) : Bool := s.code.any "EFG".toList.contains

def magnitude (s : Spec) (mantissa : Nat) (exponent : Int) : List Char :=
  let style : Binary64.Style := { keepPoint := s.alternate, pointZero := s.code.isNone }
  let places := s.precision.getD 6
  match s.code.map Char.toLower, s.precision with
  | some 'e', _ =>
    let (digits, e) := Binary64.leadingDigits mantissa exponent (places + 1)
    Binary64.scientific style digits e
  | some 'f', _ | some '%', _ => Binary64.fixed style mantissa exponent places
  | none, none => Binary64.brief style mantissa exponent
  | _, _ => Binary64.general style mantissa exponent places

def isNothing (cs : List Char) : Bool :=
  (cs.takeWhile fun c => c != 'e').all fun c => c == '0' || c == '.'

def parts (s : Spec) : Binary64 → Bool × List Char
  | .nan => (false, "nan".toList)
  | .infinite negative => (negative, "inf".toList)
  | .finite negative m q =>
    let cs := s.magnitude m q
    (negative && !(s.positiveZero && isNothing cs), cs)

def double (s : Spec) (x : Binary64) : Except Fault (List Char) := do
  if s.precision.any (2147483647 < ·) then problem .precisionTooBig
  if s.precision.any (placesLimit < ·) then throw .tooLarge
  let x := if s.code == some '%' then x.hundredfold else x
  s.fits
  let (negative, cs) := s.parts x
  let cs := if s.code == some '%' then cs ++ ['%'] else cs
  let t : NumberText :=
    { negative, digits := cs.takeWhile Char.isDigit, rest := cs.dropWhile Char.isDigit }
  return s.number (if s.isUpper then t.upperCase else t)

def isDoubleCode (code : Char) : Bool := "eEfFgG%".toList.contains code

def doubleOf (n : Int) : Except Fault Binary64 :=
  match Binary64.ofRatio (n < 0) n.natAbs 1 with
  | .infinite _ => .error .overflow
  | x => .ok (if n == 0 then .zero false else x)

end Spec

def specOf (typeName : String) (align : Align) (code : Option Char) (cs : List Char) :
    Except Fault Spec :=
  (Spec.ofChars typeName align code cs).mapError fun p => .badValue (.template p)

def formatText (spec cs : List Char) : Except Fault (List Char) := do
  if spec.isEmpty then return cs
  (← specOf "str" .left (some 's') spec).text cs

def formatInteger (typeName : String) (spec : List Char) (n : Int) : Except Fault (List Char) := do
  let s ← specOf typeName .right (some 'd') spec
  let code := s.code.getD 'd'
  if "bcdoxXn".toList.contains code then s.integer n
  else if Spec.isDoubleCode code then s.double (← Spec.doubleOf n)
  else Spec.problem (.unknownCode code typeName)

def formatDouble (spec : List Char) (x : Binary64) : Except Fault (List Char) := do
  let s ← specOf "float" .right none spec
  match s.code with
  | none => s.double x
  | some code =>
    if Spec.isDoubleCode code || code == 'n' then s.double x
    else Spec.problem (.unknownCode code "float")

end SmithyGen.Template
