import SmithyGen.Number.Binary64
import SmithyGen.Text.Basic
import SmithyGen.Text.DigitChar

namespace SmithyGen.Number

/-- An integer may have this many digits. -/
def digitLimit : Nat := 4300

def isOuterBlank (cs : List Char) : Char → Bool :=
  if cs.all (·.toNat < 128) then fun c => c == ' ' || (9 ≤ c.toNat && c.toNat ≤ 13) else Text.isBlank

def trimmed (cs : List Char) : List Char :=
  Text.dropWhileEnd (isOuterBlank cs) (cs.dropWhile (isOuterBlank cs))

/-- The longest run of digits, single underscores between them passed over. -/
def digitRun : List Char → List Nat × List Char
  | [] => ([], [])
  | '_' :: c :: cs =>
    match Text.digitValue? c with
    | some d => let (ds, rest) := digitRun cs; (d :: ds, rest)
    | none => ([], '_' :: c :: cs)
  | c :: cs =>
    match Text.digitValue? c with
    | some d => let (ds, rest) := digitRun cs; (d :: ds, rest)
    | none => ([], c :: cs)

def digits (cs : List Char) : List Nat × List Char :=
  match cs with
  | '_' :: _ => ([], cs)
  | _ => digitRun cs

def ofDigits (ds : List Nat) : Nat := ds.foldl (fun n d => 10 * n + d) 0

def sign : List Char → Bool × List Char
  | '-' :: cs => (true, cs)
  | '+' :: cs => (false, cs)
  | cs => (false, cs)

/-- An integer: a sign and digits, no more of them than the limit. -/
def int? (text : List Char) : Option Int :=
  let (negative, cs) := sign (trimmed text)
  match digits cs with
  | ([], _) => none
  | (ds, []) =>
    if digitLimit < ds.length then none
    else some (if negative then -(ofDigits ds : Int) else ofDigits ds)
  | _ => none

def fraction : List Char → List Nat × List Char
  | '.' :: cs => digits cs
  | cs => ([], cs)

def exponent : List Char → Option (Int × List Char)
  | c :: cs =>
    if c == 'e' || c == 'E' then
      let (negative, cs) := sign cs
      match digits cs with
      | ([], _) => none
      | (ds, rest) => some (if negative then -(ofDigits ds : Int) else ofDigits ds, rest)
    else some (0, c :: cs)
  | [] => some (0, [])

/-- A decimal, an infinity or NaN, in any case of letters. -/
def float? (text : List Char) : Option Binary64 :=
  let (negative, cs) := sign (trimmed text)
  let name := String.ofList (cs.map Char.toLower)
  if name == "inf" || name == "infinity" then some (.infinite negative)
  else if name == "nan" then some .nan
  else
    let (whole, rest) := digits cs
    let (part, rest) := fraction rest
    if whole.isEmpty && part.isEmpty then none
    else match exponent rest with
      | some (e, []) => some (.ofDecimal negative (ofDigits (whole ++ part)) (e - part.length))
      | _ => none

end SmithyGen.Number
