import SmithyGen.Idl.Reader

namespace SmithyGen.Idl

def isNameChar (c : Char) : Bool := c.isAlphanum || c == '_'

/-- An identifier of ASCII. -/
structure Ident where
  first : Char
  more : List Char
  isNameStart_first : isNameStart first = true
  isNameChar_more : ∀ c ∈ more, isNameChar c = true

structure Path where
  first : Ident
  more : List Ident

/-- What stands for a shape or a trait: a name of the namespace at hand, or an absolute id. -/
inductive Ref where
  | bare (name : Ident)
  | absolute (ns : Path) (name : Ident)

namespace Ident

def chars (i : Ident) : List Char := i.first :: i.more

def text (i : Ident) : String := String.ofList i.chars

end Ident

namespace Path

def chars (p : Path) : List Char := p.first.chars ++ p.more.flatMap fun i => '.' :: i.chars

def text (p : Path) : String := String.ofList p.chars

def id (p : Path) (name : Ident) : String := p.text ++ "#" ++ name.text

end Path

namespace Ref

def chars : Ref → List Char
  | .bare name => name.chars
  | .absolute ns name => ns.chars ++ '#' :: name.chars

def text (r : Ref) : String := String.ofList r.chars

/-- The shape that a reference names: some simple names need no namespace. -/
def shapeId (ns : Path) : Ref → String
  | .bare name =>
    if Prelude.simpleNames.contains name.text then Prelude.id name.text else ns.id name
  | .absolute other name => other.id name

/-- The trait that a reference names: protocols have a namespace of their own. -/
def traitId : Ref → String
  | .bare name =>
    if Prelude.protocols.contains name.text then Prelude.protocolTrait name.text
    else Prelude.id name.text
  | .absolute other name => other.id name

end Ref

namespace Source

def traitsOf (applied : List Ref) : Entries Value :=
  Entries.ofList (applied.map fun t => (t.traitId, .map []))

structure Member where
  traits : List Ref
  name : Ident
  target : Ref

/-- Members with names of their own. -/
structure Members where
  items : List Member
  nodup : (items.map (·.name.text)).Nodup

def isVersionChar (c : Char) : Bool := Text.isWord c || c == '.' || c == '-'

structure Version where
  chars : List Char
  ne_nil : chars ≠ []
  isVersionChar_chars : ∀ c ∈ chars, isVersionChar c = true

def memberName : Ident := ⟨'m', "ember".toList, by decide, List.all_eq_true.mp (by decide)⟩

def keyName : Ident := ⟨'k', "ey".toList, by decide, List.all_eq_true.mp (by decide)⟩

def valueName : Ident := ⟨'v', "alue".toList, by decide, List.all_eq_true.mp (by decide)⟩

/-- What a declaration with a body says. A property may be missing. -/
inductive Block where
  | struct (members : Members)
  | union (members : Members)
  | list (traits : List Ref) (member : Ref)
  | map (keyTraits : List Ref) (key : Ref) (valueTraits : List Ref) (value : Ref)
  | operation (input output : Option Ref) (errors : Option (List Ref))
  | service (version : Option Version) (operations errors : Option (List Ref))

inductive Content where
  | simple (kind : String) (known : (kind, kind) ∈ simpleKeywords)
  | block (block : Block)

structure Declaration where
  traits : List Ref
  name : Ident
  content : Content

def Content.isService : Content → Bool
  | .block (.service ..) => true
  | _ => false

end Source

/-- A namespace and declarations with names of their own, one of them a service at most. -/
structure Source where
  ns : Path
  declarations : List Source.Declaration
  nodup : (declarations.map (·.name.text)).Nodup
  single : (declarations.filter (·.content.isService)).length ≤ 1

namespace Source

section Layout

variable (margin : Nat)

def line (cs : List Char) : List Char := List.replicate margin ' ' ++ cs ++ ['\n']

def traitLines (applied : List Ref) : List Char :=
  applied.flatMap fun t => line margin ('@' :: t.chars)

def fieldLine (name value : List Char) : List Char := line margin (name ++ ':' :: ' ' :: value)

def Member.lines (m : Member) : List Char :=
  traitLines margin m.traits ++ fieldLine margin m.name.chars m.target.chars

def bracketed (refs : List Ref) : List Char :=
  '[' :: Text.joinWith [',', ' '] (refs.map Ref.chars) ++ [']']

def quoted (v : Version) : List Char := '"' :: v.chars ++ ['"']

def propertyLines (properties : List (String × List Char)) : List Char :=
  properties.flatMap fun p => fieldLine margin p.1.toList p.2

namespace Block

def members : Block → List Member
  | .struct ms | .union ms => ms.items
  | .list traits member => [⟨traits, memberName, member⟩]
  | .map keyTraits key valueTraits value =>
    [⟨keyTraits, keyName, key⟩, ⟨valueTraits, valueName, value⟩]
  | .operation .. | .service .. => []

def properties : Block → List (String × List Char)
  | .operation input output errors =>
    (input.map fun r => ("input", r.chars)).toList
      ++ (output.map fun r => ("output", r.chars)).toList
      ++ (errors.map fun rs => ("errors", bracketed rs)).toList
  | .service version operations errors =>
    (version.map fun v => ("version", quoted v)).toList
      ++ (operations.map fun rs => ("operations", bracketed rs)).toList
      ++ (errors.map fun rs => ("errors", bracketed rs)).toList
  | _ => []

def kind : Block → BlockKind
  | .struct .. => .struct
  | .union .. => .union
  | .list .. => .list
  | .map .. => .map
  | .operation .. => .operation
  | .service .. => .service

def lines (b : Block) : List Char :=
  b.members.flatMap (·.lines margin) ++ propertyLines margin b.properties

end Block

end Layout

def keyword : BlockKind → String
  | .service => "service"
  | .struct => "structure"
  | .union => "union"
  | .operation => "operation"
  | .list => "list"
  | .map => "map"

def heading (word : String) (name : Ident) : List Char := word.toList ++ ' ' :: name.chars

def Declaration.lines (margin : Nat) (d : Declaration) : List Char :=
  traitLines 0 d.traits ++
    match d.content with
    | .simple kind _ => line 0 (heading kind d.name)
    | .block b =>
      line 0 (heading (keyword b.kind) d.name ++ [' ', '\x7b']) ++ b.lines margin ++ line 0 ['\x7d']

/-- An empty line stands before every declaration. -/
def chars (margin : Nat) (s : Source) : List Char :=
  line 0 ("namespace ".toList ++ s.ns.chars)
    ++ s.declarations.flatMap fun d => '\n' :: d.lines margin

/-- The text of a model; the margin is that of the lines between braces. -/
def render (margin : Nat) (s : Source) : String := String.ofList (s.chars margin)

section Meaning

variable (ns : Path)

def Member.entry (m : Member) : String × Idl.Member :=
  (m.name.text, ⟨m.target.shapeId ns, traitsOf m.traits⟩)

def Block.shape (b : Block) : Shape :=
  match b with
  | .struct ms => .struct (ms.items.map (·.entry ns))
  | .union ms => .union (ms.items.map (·.entry ns))
  | .list .. => .list (b.members.map (·.entry ns))
  | .map .. => .map (b.members.map (·.entry ns))
  | .operation input output errors =>
    .operation (input.map (·.shapeId ns)) (output.map (·.shapeId ns))
      ((errors.getD []).map (·.shapeId ns))
  | .service version operations errors =>
    .service (version.elim "1.0" fun v => String.ofList v.chars)
      ((operations.getD []).map (·.shapeId ns)) ((errors.getD []).map (·.shapeId ns))

def Content.shape : Content → Shape
  | .simple kind _ => .simple kind
  | .block b => b.shape ns

def Declaration.entry (d : Declaration) : String × Declared :=
  (ns.id d.name, ⟨d.content.shape ns, traitsOf d.traits⟩)

end Meaning

def ast (s : Source) : Ast := ⟨s.ns.text, s.declarations.map (·.entry s.ns)⟩

end Source

end SmithyGen.Idl
