namespace SmithyGen

abbrev Matcher (α : Type) := Option Char → List Char → Option (α × List Char)

namespace Matcher

variable {α : Type}

/-- All matches from the left, without overlap; `skip` counts the characters of a match still to be
passed over. -/
def allFrom (m : Matcher α) : (skip : Nat) → Option Char → List Char → List α
  | _, _, [] => []
  | skip + 1, _, c :: cs => allFrom m skip (some c) cs
  | 0, before, c :: cs =>
    match m before (c :: cs) with
    | some (a, rest) => a :: allFrom m (cs.length - rest.length) (some c) cs
    | none => allFrom m 0 (some c) cs

def all (m : Matcher α) (cs : List Char) : List α := allFrom m 0 none cs

def firstFrom (m : Matcher α) : Option Char → List Char → Option α
  | _, [] => none
  | before, c :: cs =>
    match m before (c :: cs) with
    | some (a, _) => some a
    | none => firstFrom m (some c) cs

def first? (m : Matcher α) (cs : List Char) : Option α := firstFrom m none cs

def substituteFrom (m : Matcher (List Char)) : (skip : Nat) → Option Char → List Char → List Char
  | _, _, [] => []
  | skip + 1, _, c :: cs => substituteFrom m skip (some c) cs
  | 0, before, c :: cs =>
    match m before (c :: cs) with
    | some (new, rest) => new ++ substituteFrom m (cs.length - rest.length) (some c) cs
    | none => c :: substituteFrom m 0 (some c) cs

/-- Every match from the left becomes the text its matcher answers. -/
def substitute (m : Matcher (List Char)) (cs : List Char) : List Char := substituteFrom m 0 none cs

def runFrom (m : List Char → Option (α × List Char)) : (skip : Nat) → List Char → List α × List Char
  | _, [] => ([], [])
  | skip + 1, _ :: cs => runFrom m skip cs
  | 0, c :: cs =>
    match m (c :: cs) with
    | some (a, rest) =>
      let (as, left) := runFrom m (cs.length - rest.length) cs
      (a :: as, left)
    | none => ([], c :: cs)

def run (m : List Char → Option (α × List Char)) (cs : List Char) : List α × List Char :=
  runFrom m 0 cs

/-- The character right before `rest`, which ends `cs`; `before` stands before all of `cs`. -/
def lastBefore (before : Option Char) (cs rest : List Char) : Option Char :=
  (cs.take (cs.length - rest.length)).getLast?.or before

end Matcher

end SmithyGen
