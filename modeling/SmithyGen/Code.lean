import SmithyGen.Code.Statement

namespace SmithyGen.Code

/-- No text is nested deeper than this: every level of an expression takes three phrases and at
least one character. -/
def depthOf (text : String) : Nat := 3 * text.length + 3

/-- Whether a text is a module of statements, and nothing else. -/
def isModule (text : String) : Bool :=
  match tokens? text.toList with
  | none => false
  | some ts =>
    match statements (depthOf text) ts with
    | some (_, []) => true
    | _ => false

end SmithyGen.Code
