import SmithyGen.Idl.Trait

namespace SmithyGen.Idl

inductive BlockKind where
  | service
  | struct
  | union
  | operation
  | list
  | map
deriving DecidableEq, Repr

def blockKeywords : List (String × BlockKind) :=
  [("service", .service), ("structure", .struct), ("union", .union), ("operation", .operation),
   ("list", .list), ("map", .map)]

def simpleKeywords : List (String × String) :=
  ["string", "blob", "boolean", "byte", "short", "integer", "long", "float", "double", "timestamp",
   "bigInteger", "bigDecimal", "document"].map fun k => (k, k)

/-- What a declaration says, its body still text. -/
inductive Written where
  | block (kind : BlockKind) (name : String) (body : List Char)
  | simple (kind : String) (name : String)
deriving DecidableEq, Repr

structure Declaration where
  traits : Entries Value
  written : Written

def named? {κ : Type} (keywords : List (String × κ)) (cs : List Char) :
    Option ((κ × String) × List Char) :=
  keywords.findSome? fun (word, kind) => do
    let rest ← Text.strip? word.toList cs
    let inner := rest.dropWhile Text.isInlineBlank
    if inner.length == rest.length then none
    let (name, rest) ← name? inner
    return ((kind, name), rest)

/-- Whether a clause that starts with `for` or `with` follows on the same line. -/
def hasClause (cs : List Char) : Bool :=
  let rest := cs.dropWhile Text.isInlineBlank
  rest.length != cs.length
    && ((Text.strip? "for".toList rest).isSome || (Text.strip? "with".toList rest).isSome)

/-- What stands from the opening brace of a block on, its clause passed over. -/
def blockStart (cs : List Char) : List Char :=
  if hasClause cs then cs.dropWhile (· != '\x7b') else skipBlank cs

def block? (cs : List Char) : Option (Written × List Char) := do
  let ((kind, name), rest) ← named? blockKeywords cs
  match blockStart rest with
  | '\x7b' :: inner =>
    let (body, rest) ← body? inner
    return (.block kind name body, rest)
  | _ => none

def simple? (cs : List Char) : Option (Written × List Char) := do
  let ((kind, name), rest) ← named? simpleKeywords cs
  match rest.dropWhile Text.isInlineBlank with
  | [] => return (.simple kind name, [])
  | '\n' :: rest => return (.simple kind name, '\n' :: rest)
  | _ => none

def declaration : Matcher Declaration := fun before cs =>
  let (raw, rest) := docs cs
  let (applied, rest) := applications rest
  if mayStartAfter (Matcher.lastBefore before cs rest) then
    ((block? rest).or (simple? rest)).map fun (written, rest) =>
      (⟨traitEntries raw applied, written⟩, rest)
  else none

/-- A member as written: its target is not yet an absolute id. -/
structure WrittenMember where
  name : String
  target : String
  traits : Entries Value

def member : Matcher WrittenMember := fun before cs =>
  let (raw, rest) := docs cs
  let (applied, rest) := applications rest
  if mayStartAfter (Matcher.lastBefore before cs rest) then do
    let (name, rest) ← name? rest
    match skipBlank rest with
    | ':' :: rest =>
      let (target, rest) ← target? (skipBlank rest)
      return (⟨name, target, traitEntries raw applied⟩, rest)
    | _ => none
  else none

def property? (key : String) (before : Option Char) (cs : List Char) : Option (List Char) :=
  if before.any Text.isWord then none
  else do
    let rest ← Text.strip? key.toList cs
    match skipBlank rest with
    | ':' :: rest => some rest
    | _ => none

def version : Matcher String := fun before cs => do
  let rest ← property? "version" before cs
  match skipBlank rest with
  | '"' :: rest =>
    let text := rest.takeWhile (· != '"')
    match text.isEmpty, rest.dropWhile (· != '"') with
    | false, '"' :: rest => some (String.ofList text, rest)
    | _, _ => none
  | _ => none

def nameList (key : String) : Matcher (List String) := fun before cs => do
  let rest ← property? key before cs
  match skipBlank rest with
  | '[' :: rest =>
    match rest.dropWhile (· != ']') with
    | ']' :: after =>
      let parts := Text.splitWhere (fun c => c == ',' || Text.isBlank c) (rest.takeWhile (· != ']'))
      some ((parts.filter (· != [])).map String.ofList, after)
    | _ => none
  | _ => none

/-- The shape named by an input or output property, after a colon or `:=`. -/
def shapeProperty (key : String) : Matcher String := fun before cs => do
  let rest ← property? key before cs
  target? (skipBlank (match rest with
    | '=' :: rest => rest
    | _ => rest))

def namespaceLine : Matcher String := fun before cs =>
  if before == none || before == some '\n' then do
    let rest ← Text.strip? "namespace".toList (skipBlank cs)
    let inner := skipBlank rest
    let isPart := fun c => Text.isWord c || c == '.'
    let name := inner.takeWhile isPart
    if inner.length == rest.length || name.isEmpty then none
    else some (String.ofList name, inner.dropWhile isPart)
  else none

end SmithyGen.Idl
