import SmithyGen.Number.Shortest

namespace SmithyGen.Binary64

/-- How a number is written beyond its digits: whether a point without digits after it stays, and
whether a whole number gets a zero after its point. -/
structure Style where
  keepPoint : Bool := false
  pointZero : Bool := false

def Style.fraction (s : Style) (digits : List Char) : List Char :=
  if digits.isEmpty then if s.keepPoint then ['.'] else [] else '.' :: digits

def ratio (mantissa : Nat) (exponent : Int) : Nat × Nat := scale mantissa 1 (-exponent)

def fixedDigits (mantissa : Nat) (exponent : Int) (places : Nat) : Nat :=
  let (num, den) := ratio mantissa exponent
  roundDiv (num * Nat.pow 10 places) den

def leadingDigits (mantissa : Nat) (exponent : Int) (count : Nat) : List Char × Int :=
  if mantissa == 0 then (List.replicate count '0', 0)
  else
    let (num, den) := ratio mantissa exponent
    let e := decimalExponent num den
    let shift : Int := count - 1 - e
    let n := roundDiv (num * Nat.pow 10 shift.toNat) (den * Nat.pow 10 (-shift).toNat)
    let digits := Nat.toDigits 10 n
    if count < digits.length then (digits.take count, e + 1) else (digits, e)

def fixed (s : Style) (mantissa : Nat) (exponent : Int) (places : Nat) : List Char :=
  let digits := Nat.toDigits 10 (fixedDigits mantissa exponent places)
  let padded := List.replicate (places + 1 - digits.length) '0' ++ digits
  let whole := padded.length - places
  padded.take whole ++ s.fraction (padded.drop whole)

def power (e : Int) : List Char :=
  let digits := Nat.toDigits 10 e.natAbs
  (if e < 0 then '-' else '+') :: (List.replicate (2 - digits.length) '0' ++ digits)

def scientific (s : Style) (digits : List Char) (e : Int) : List Char :=
  digits.take 1 ++ s.fraction (digits.drop 1) ++ 'e' :: power e

def plain (s : Style) (digits : List Char) (e : Int) : List Char :=
  if e < 0 then '0' :: '.' :: (List.replicate (-e - 1).toNat '0' ++ digits)
  else
    let places := e.toNat + 1
    let whole := digits.take places ++ List.replicate (places - digits.length) '0'
    let rest := digits.drop places
    whole ++ s.fraction (if rest.isEmpty && s.pointZero then ['0'] else rest)

def withoutZeros (digits : List Char) : List Char :=
  digits.take 1 ++ Text.dropWhileEnd (· == '0') (digits.drop 1)

/-- So many digits in all, at least one, in whichever way is shorter; zeros at the end go unless
points are kept. -/
def general (s : Style) (mantissa : Nat) (exponent : Int) (count : Nat) : List Char :=
  let count := max count 1
  let (digits, e) := leadingDigits mantissa exponent count
  let shown := if s.keepPoint then digits else withoutZeros digits
  let limit : Int := if s.pointZero then count - 1 else count
  if -4 ≤ e && e < limit then plain s shown e else scientific s shown e

def brief (s : Style) (mantissa : Nat) (exponent : Int) : List Char :=
  let (digits, e) := if mantissa == 0 then (['0'], 0) else shortest mantissa exponent
  if -4 ≤ e && e < 16 then plain s digits e else scientific s digits e

def hundredfold : Binary64 → Binary64
  | .finite negative m q =>
    let (num, den) := ratio m q
    ofRatio negative (100 * num) den
  | x => x

end SmithyGen.Binary64
