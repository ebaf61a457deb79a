import SmithyGen.Logged
import SmithyGen.Value

namespace SmithyGen

/-- A document whose shapes are maps. -/
structure Interchange where
  shapes : Entries Value
  metadata : Entries Value
  version : Option Value

namespace Interchange

def toValue (d : Interchange) : Value :=
  .map ([("shapes", .map d.shapes), ("metadata", .map d.metadata)]
    ++ d.version.elim [] fun v => [("smithy", v)])

/-- A section of a document: absent and null are empty. -/
def sectionEntries (refuse : String → DocumentCause) : Value → Except DocumentCause (Entries Value)
  | .null => .ok []
  | .map es => .ok es
  | v => .error (refuse v.typeName)

def checkShapes : Entries Value → Except DocumentCause Unit
  | [] => .ok ()
  | (_, .map _) :: rest => checkShapes rest
  | (id, v) :: _ => .error (.shapeNotObject id v.typeName)

def check : Value → Except DocumentCause Interchange
  | .map es => do
    let shapes ← sectionEntries .shapesNotObject (Value.field es "shapes")
    let metadata ← sectionEntries .metadataNotObject (Value.field es "metadata")
    checkShapes shapes
    return ⟨shapes, metadata, Entries.get? "smithy" es⟩
  | v => .error (.notObject v.typeName)

def sourceOf (source : Option String) : Option String := source.filter (· != "")

def ofValue (v : Value) (source : Option String) : Logged Interchange :=
  match check v with
  | .ok d => do
    Logged.note (.imported d.shapes.length (sourceOf source))
    return d
  | .error cause => Logged.fail (.document cause (sourceOf source))

def ofText (text : String) (source : Option String) : Logged Interchange :=
  match Json.decode text with
  | .ok v => ofValue v source
  | .error e => Logged.fail (.document (.json e) (sourceOf source))

/-- The section of a raw document that a union takes; it has to be a map. -/
def rawSection (doc : Value) (key : String) : Except Fault Value :=
  match doc with
  | .map es => .ok ((Entries.get? key es).getD (.map []))
  | _ => .error .wrongType

/-- A pair written as a list or text of two. -/
def pairOf (index : Nat) (v : Value) : Except Fault (String × Value) :=
  let parts? : Option (List Value) := match v with
    | .list xs => some xs
    | .str s => some (s.toList.map fun c => .str c.toString)
    | .map es => some (es.map fun (k, _) => .str k)
    | _ => none
  match parts? with
  | some [.str k, x] => .ok (k, x)
  | some [_, _] => .error .wrongType
  | some parts =>
    .error (.badValue (.pairLength index parts.length))
  | none => .error .wrongType

def pairsFrom : (index : Nat) → List Value → Except Fault (List (String × Value))
  | _, [] => .ok []
  | index, v :: vs => do
    let p ← pairOf index v
    let ps ← pairsFrom (index + 1) vs
    return p :: ps

/-- What a map is updated with: a map, or a sequence of pairs. -/
def updatePairs : Value → Except Fault (List (String × Value))
  | .map es => .ok es
  | .list xs => pairsFrom 0 xs
  | .str s => pairsFrom 0 (s.toList.map fun c => .str c.toString)
  | _ => .error .wrongType

/-- A union under way: shapes, where each was last defined, and metadata. -/
structure Union where
  shapes : Entries Value
  origins : Entries String
  metadata : Entries Value

def Union.addShapes (file : String) : Entries Value → Union → Logged Union
  | [], u => .ok u
  | (id, shape) :: rest, u => do
    match u.origins.get? id with
    | some earlier => Logged.note (.redefined id earlier file)
    | none => pure ()
    Union.addShapes file rest
      { u with shapes := u.shapes.insert id shape, origins := u.origins.insert id file }

def Union.addFile (file : String) (doc : Value) (u : Union) : Logged Union := do
  match ← rawSection doc "shapes" with
  | .map es =>
    let u ← u.addShapes file es
    let pairs ← updatePairs (← rawSection doc "metadata")
    return { u with metadata := pairs.foldl (fun m (k, v) => m.insert k v) u.metadata }
  | _ => Logged.fail .wrongType

def Union.addFiles : List (String × Value) → Union → Logged Union
  | [], u => .ok u
  | (file, doc) :: rest, u => do
    let u ← u.addFile file doc
    Union.addFiles rest u

/-- The union of documents in order: an id keeps its first place and takes its last definition. -/
def merge (files : List (String × Value)) : Logged Value := do
  let u ← Union.addFiles files ⟨[], [], []⟩
  Logged.note (.merged u.shapes.length files.length)
  return .map [("smithy", .str "2.0"), ("shapes", .map u.shapes), ("metadata", .map u.metadata)]

end Interchange

end SmithyGen
