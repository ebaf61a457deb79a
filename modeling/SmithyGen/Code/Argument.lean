namespace SmithyGen.Code

/-- A parameter as far as its place among the others goes. -/
inductive Parameter where
  | plain (hasDefault : Bool)
  | slash
  | star (isNamed : Bool)
  | doubleStar
deriving DecidableEq, Repr

namespace Parameter

/-- What was seen of parameters so far. A star without a name needs a parameter after it. -/
structure Seen where
  plain : Bool := false
  slash : Bool := false
  default : Bool := false
  star : Bool := false
  needsPlain : Bool := false
  doubleStar : Bool := false

/-- Nothing follows a double star. Before a star, all parameters after one with a default have one
too. -/
def Seen.add (s : Seen) (p : Parameter) : Option Seen :=
  if s.doubleStar then none
  else match p with
    | .plain hasDefault =>
      if s.star then some { s with needsPlain := false }
      else if s.default && !hasDefault then none
      else some { s with plain := true, default := hasDefault }
    | .slash => if s.slash || s.star || !s.plain then none else some { s with slash := true }
    | .star isNamed =>
      if s.star then none else some { s with star := true, needsPlain := !isNamed }
    | .doubleStar => if s.needsPlain then none else some { s with doubleStar := true }

/-- Whether parameters may stand in this order. -/
def areOrdered (ps : List Parameter) : Bool := (ps.foldlM Seen.add {}).any fun s => !s.needsPlain

end Parameter

inductive Argument where
  | plain
  | keyword
  | star
  | doubleStar
deriving DecidableEq, Repr

/-- Whether arguments may stand in this order: no plain one follows a keyword, and only keywords
and double stars follow a double star. -/
def Argument.areOrdered : List Argument → Bool
  | [] => true
  | a :: as =>
    areOrdered as && match a with
      | .keyword => !as.contains .plain
      | .doubleStar => !as.contains .plain && !as.contains .star
      | _ => true

end SmithyGen.Code
