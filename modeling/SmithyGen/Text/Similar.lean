namespace SmithyGen.Text

def commonLength : List Char → List Char → Nat
  | a :: as, b :: bs => if a == b then commonLength as bs + 1 else 0
  | _, _ => 0

/-- A block of `length` characters that starts at `left` in one text and at `right` in another. -/
structure Block where
  left : Nat
  right : Nat
  length : Nat

/-- The longest common block; of several, the first in the first text, then in the second. -/
def longestBlock (a b : List Char) : Block :=
  let starts := (List.range a.length).flatMap fun i => (List.range b.length).map fun j => (i, j)
  starts.foldl (fun best (i, j) =>
    let length := commonLength (a.drop i) (b.drop j)
    if best.length < length then ⟨i, j, length⟩ else best) ⟨0, 0, 0⟩

/-- Characters in matching blocks; each block shortens the first text, so `depth` need not exceed
its length. -/
def matchedCount : (depth : Nat) → List Char → List Char → Nat
  | 0, _, _ => 0
  | depth + 1, a, b =>
    let block := longestBlock a b
    if block.length == 0 then 0
    else block.length + matchedCount depth (a.take block.left) (b.take block.right)
      + matchedCount depth (a.drop (block.left + block.length)) (b.drop (block.right + block.length))

/-- A text with the part of its characters that match: twice the matched ones of all. -/
structure Resemblance where
  text : String
  matched : Nat
  total : Nat

namespace Resemblance

def of (word text : String) : Resemblance :=
  let a := text.toList
  let b := word.toList
  ⟨text, matchedCount a.length a b, a.length + b.length⟩

def isClose (r : Resemblance) : Bool := 3 * r.total ≤ 10 * r.matched

/-- The closer one first, then the later in order of code points. -/
def precedes (r s : Resemblance) : Bool :=
  let x := r.matched * s.total
  let y := s.matched * r.total
  y < x || x == y && s.text ≤ r.text

end Resemblance

def closeTexts (word : String) (texts : List String) : List String :=
  let close := (texts.map (Resemblance.of word)).filter (·.isClose)
  ((close.mergeSort Resemblance.precedes).take 3).map (·.text)

end SmithyGen.Text
