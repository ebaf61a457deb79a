import SmithyGen.Template.Subject

namespace SmithyGen.Template

structure Field where
  path : List Char
  conversion : Option Char
  spec : List Char
deriving DecidableEq, Repr

/-- The path that starts a field; between brackets nothing ends it. -/
def path : (bracketed : Bool) → List Char → Except Problem (List Char × List Char)
  | _, [] => .error .openField
  | true, c :: cs => (path (c != ']') cs).map fun (p, rest) => (c :: p, rest)
  | false, c :: cs =>
    if c == '\x7b' then .error .nestedField
    else if c == '\x7d' || c == '!' || c == ':' then .ok ([], c :: cs)
    else (path (c == '[') cs).map fun (p, rest) => (c :: p, rest)

/-- A specification up to the brace that closes its field; `depth` counts the braces opened
inside. -/
def spec : (depth : Nat) → List Char → Except Problem (List Char × List Char)
  | _, [] => .error .openSpec
  | 0, '\x7d' :: cs => .ok ([], cs)
  | depth + 1, '\x7d' :: cs => (spec depth cs).map fun (s, rest) => ('\x7d' :: s, rest)
  | depth, '\x7b' :: cs => (spec (depth + 1) cs).map fun (s, rest) => ('\x7b' :: s, rest)
  | depth, c :: cs => (spec depth cs).map fun (s, rest) => (c :: s, rest)

def showing : List Char → Except Problem ((Option Char × List Char) × List Char)
  | '\x7d' :: rest => .ok ((none, []), rest)
  | ['!'] => .error .noConversion
  | '!' :: c :: '\x7d' :: rest => .ok ((some c, []), rest)
  | '!' :: c :: ':' :: rest => (spec 0 rest).map fun (s, rest) => ((some c, s), rest)
  | ['!', _] => .error .openSpec
  | '!' :: _ => .error .afterConversion
  | ':' :: rest => (spec 0 rest).map fun (s, rest) => ((none, s), rest)
  | _ => .error .openField

def field (cs : List Char) : Except Problem (Field × List Char) := do
  let (path, rest) ← path false cs
  let ((conversion, spec), rest) ← showing rest
  return (⟨path, conversion, spec⟩, rest)

def isAccess (c : Char) : Bool := c == '.' || c == '['

def index? (cs : List Char) : Except Problem (Option Nat) :=
  (number cs).map fun (n, rest) => if rest.isEmpty then n else none

def refuse {α : Type} (p : Problem) : Except Fault α := .error (.badValue (.template p))

def item (key : List Char) (s : Subject) : Except Fault Subject := do
  let index ← (index? key).mapError fun p => .badValue (.template p)
  if key.isEmpty then refuse .emptyAccess
  match index with
  | some n => s.itemAt n
  | none => s.itemOf (String.ofList key)

/-- Goes along names after dots and items in brackets; `skip` counts the characters still to be
passed over. -/
def walk : (skip : Nat) → List Char → Subject → Except Fault Subject
  | _, [], s => .ok s
  | skip + 1, _ :: cs, s => walk skip cs s
  | 0, '.' :: cs, s => do
    let name := cs.takeWhile (!isAccess ·)
    if name.isEmpty then refuse .emptyAccess
    walk name.length cs (← s.attributeOf (String.ofList name))
  | 0, '[' :: cs, s => do
    let key := cs.takeWhile (· != ']')
    if key.length == cs.length then refuse .openItem
    walk (key.length + 1) cs (← item key s)
  | 0, _ :: _, _ => refuse .afterItem

/-- What a path leads to. There are no parameters by position. -/
def resolve (params : Entries Subject) (path : List Char) : Except Fault Subject := do
  let first := path.takeWhile (!isAccess ·)
  let index ← (index? first).mapError fun p => .badValue (.template p)
  if first.isEmpty || index.isSome then throw .noSuchIndex
  let name := String.ofList first
  match params.get? name with
  | none => throw (.missingKey (Text.quoted name))
  | some s => walk 0 (path.drop first.length) s

end SmithyGen.Template
