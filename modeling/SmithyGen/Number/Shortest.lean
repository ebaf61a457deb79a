import SmithyGen.Number.Binary64
import SmithyGen.Text.Basic

namespace SmithyGen.Binary64

/-- The decimal exponent of a positive ratio: `10 ^ e ≤ num / den < 10 ^ (e + 1)`. -/
def decimalExponent (num den : Nat) : Int :=
  if den ≤ num then (decimalLength (num / den) : Int) - 1
  else -(decimalLength ((num + den - 1) / num - 1) : Int)

/-- The ends of the interval that rounds to `mantissa · 2 ^ exponent`, in units of
`2 ^ (exponent - 2)`. -/
def roundingInterval (mantissa : Nat) (exponent : Int) : Nat × Nat :=
  let below := if mantissa == Nat.pow 2 52 && -1074 < exponent then 1 else 2
  (4 * mantissa - below, 4 * mantissa + 2)

/-- A number on the grid of multiples of `10 ^ step` that rounds to the double, the nearest if there
are two, the even one on a tie. -/
def onGrid? (mantissa : Nat) (exponent : Int) (step : Int) : Option Nat :=
  let unit : Nat × Nat := scale 1 1 (2 - exponent)
  let a := unit.2 * Nat.pow 10 step.toNat
  let b := unit.1 * Nat.pow 10 (-step).toNat
  let (lo, hi) := roundingInterval mantissa exponent
  let inside := fun c : Nat =>
    if mantissa % 2 == 0 then lo * b ≤ c * a && c * a ≤ hi * b
    else lo * b < c * a && c * a < hi * b
  let value := 4 * mantissa * b
  let below := value / a
  let above := below + 1
  match inside below, inside above with
  | true, false => some below
  | false, true => some above
  | false, false => none
  | true, true =>
    let left := value - below * a
    let right := above * a - value
    if left < right || (left == right && below % 2 == 0) then some below else some above

/-- The digits of the shortest decimal and the power of ten of the first one. -/
def shortest (mantissa : Nat) (exponent : Int) : List Char × Int :=
  let unit := scale 1 1 (2 - exponent)
  let e := decimalExponent (4 * mantissa * unit.1) unit.2
  let found := (List.range 17).findSome? fun (n : Nat) =>
    (onGrid? mantissa exponent (e - n)).map fun d => (d, e - n)
  let (d, step) := found.getD (0, 0)
  let digits := Nat.toDigits 10 d
  (Text.dropWhileEnd (· == '0') digits, step + digits.length - 1)

def positional (digits : List Char) (e : Int) : List Char :=
  if e < 0 then '0' :: '.' :: (List.replicate (-e - 1).toNat '0' ++ digits)
  else
    let places := e.toNat + 1
    let whole := digits.take places ++ List.replicate (places - digits.length) '0'
    let fraction := digits.drop places
    whole ++ '.' :: (if fraction.isEmpty then ['0'] else fraction)

def withExponent (digits : List Char) (e : Int) : List Char :=
  let mantissa := match digits with
    | [] => []
    | [d] => [d]
    | d :: ds => d :: '.' :: ds
  let power := Nat.toDigits 10 e.natAbs
  let power := if power.length < 2 then '0' :: power else power
  mantissa ++ 'e' :: (if e < 0 then '-' else '+') :: power

def text : Binary64 → String
  | .nan => "nan"
  | .infinite negative => if negative then "-inf" else "inf"
  | .finite negative m q =>
    let sign := if negative then ['-'] else []
    let (digits, e) := if m == 0 then (['0'], 0) else shortest m q
    String.ofList (sign ++ if -4 ≤ e && e < 16 then positional digits e else withExponent digits e)

end SmithyGen.Binary64
