import SmithyGen.Config
import SmithyGen.Idl.Reader
import SmithyGen.Interchange
import SmithyGen.Session

namespace SmithyGen

/-- Which files are model texts and how they are read. Without extensions there was no section to
take them from. -/
structure Loader where
  policy : Idl.RequiredPolicy
  extensions : Option (List Value)

namespace Loader

def ofSettings (s : ParserSettings) : Loader :=
  ⟨if s.strictRequired.truthy then .exact else .heuristic, some s.extensions⟩

def ofSection : Section ParserSettings → Loader
  | .settings s => ofSettings s
  | .other v => if v.truthy then ⟨.unset v.typeName, none⟩ else ofSettings {}

/-- The fault of a source without model texts; the extensions it names have to be texts. -/
def noSources (l : Loader) (source : FilePath) : Fault :=
  match l.extensions with
  | none => .wrongType
  | some extensions =>
    match extensions.mapM Value.str? with
    | some names => .noSources source.toString names
    | none => .wrongType

def hasExtension (l : Loader) (name : String) : Bool :=
  (l.extensions.getD []).any fun v => v.str? == some (FilePath.suffixOf name)

def filesBelow (nodes : List (Place × Node)) : List Place :=
  nodes.filterMap fun (p, n) =>
    match n with
    | .file _ => some p
    | .directory => none

def found (l : Loader) (t : FileTree) (directory : FilePath) : List FilePath :=
  match t.place directory with
  | .error _ => []
  | .ok place =>
    let files := (filesBelow (t.below place)).filter fun p => l.hasExtension (p.getLast?.getD "")
    (files.mergeSort fun p q => !List.lex q p fun a b => a < b).map fun p => ⟨directory.root, directory.parts ++ p⟩

def nodeAt (t : FileTree) (source : FilePath) : Logged (Option Node) :=
  Logged.ofExcept ((t.find? source).mapError .fileSystem)

def discover (l : Loader) (t : FileTree) (directory : FilePath) : Logged (List FilePath) := do
  let node ← nodeAt t directory
  let files := if node == some .directory then l.found t directory else []
  if files.isEmpty then Logged.fail (l.noSources directory)
  else
    Logged.note (.discovered files.length directory.toString)
    return files

def textOf (t : FileTree) (p : FilePath) : Except ReadCause String := do
  let bytes ← (t.read p).mapError fun r => .file { refusal := r, path := p.toString }
  (Utf8.decode bytes).mapError .bytes

def readText (l : Loader) (t : FileTree) (p : FilePath) : Logged Idl.Ast :=
  match textOf t p with
  | .ok text => Idl.read l.policy p.toString text
  | .error cause => do
    Logged.note (.unreadable ⟨p.toString, cause⟩)
    Logged.fail (.unreadable ⟨p.toString, cause⟩)

/-- The texts read and the files that could not be, in order. -/
structure Batch where
  notices : List Notice := []
  asts : List (String × Value) := []
  faults : List ReadFault := []

/-- A file that cannot be read does not stop the others. -/
def Batch.add (l : Loader) (t : FileTree) (b : Batch) (p : FilePath) : Batch :=
  let x := l.readText t p
  match x.result with
  | .ok ast => { b with notices := b.notices ++ x.notices, asts := b.asts ++ [(p.toString, ast.toValue)] }
  | .error (.unreadable fault) =>
    { b with notices := b.notices ++ x.notices, faults := b.faults ++ [fault] }
  | .error _ => { b with notices := b.notices ++ x.notices }

/-- Reads all files, and only then takes their union. A path with a null character ends the reading
at once. -/
def loadFiles (l : Loader) (t : FileTree) (files : List FilePath) : Logged Value := do
  let usable := files.takeWhile (!·.hasNull)
  let b := usable.foldl (Batch.add l t) {}
  b.notices.forM Logged.note
  if usable.length < files.length then Logged.fail (.badValue .nullCharacter)
  else if b.faults.isEmpty then Interchange.merge b.asts else Logged.fail (.unreadableFiles b.faults)

def loadDirectory (l : Loader) (t : FileTree) (directory : FilePath) : Logged Value := do
  l.loadFiles t (← l.discover t directory)

/-- Reads an interchange file. Bytes that are no text are no fault of the document. -/
def importFile (t : FileTree) (p : FilePath) : Logged Interchange :=
  if p.hasNull then Logged.fail (.badValue .nullCharacter)
  else match t.read p with
    | .error r =>
      Logged.fail (.document (.file { refusal := r, path := p.toString }) (some p.toString))
    | .ok bytes =>
      match Utf8.decode bytes with
      | .error fault => Logged.fail (.bytes fault)
      | .ok text => Interchange.ofText text (some p.toString)

def load (l : Loader) (t : FileTree) (source : FilePath) : Logged Value := do
  let node ← nodeAt t source
  if node == some .directory then l.loadDirectory t source
  else if source.suffix == ".json" then return (← importFile t source).toValue
  else if node.isSome then l.loadFiles t [source]
  else Logged.fail (l.noSources source)

end Loader

end SmithyGen
