import SmithyGen.Config
import SmithyGen.Emit.Artifact
import SmithyGen.Session

namespace SmithyGen

inductive WriteStatus where
  | created
  | updated
  | skipped
deriving DecidableEq, Repr

def WriteStatus.name : WriteStatus → String
  | .created => "created"
  | .updated => "updated"
  | .skipped => "skipped"

def WriteStatus.title : WriteStatus → String
  | .created => "Created"
  | .updated => "Updated"
  | .skipped => "Skipped"

structure WriteResult where
  path : String
  status : WriteStatus
  backup : Option String := none
deriving DecidableEq, Repr

/-- The tools that format generated code. None is ever found, so that code stays as it is. -/
inductive FormatTool where
  | black
  | ruff
deriving DecidableEq, Repr

def FormatTool.name : FormatTool → String
  | .black => "black"
  | .ruff => "ruff"

namespace FormatterSettings

/-- The tool asked for, none where formatting is off. A list or map is no name of a tool. -/
def formatTool? (s : FormatterSettings) : Except Fault (Option FormatTool) :=
  if !s.enabled.truthy then .ok none
  else match s.tool with
    | .str "black" => .ok (some .black)
    | .str "ruff" => .ok (some .ruff)
    | .list _ | .map _ => .error .wrongType
    | v => .error (.configuration (.formatter (v.literal .plain)))

end FormatterSettings

/-- What a writer goes by. Without output settings there was no section to take them from, and no
artifact can be written. -/
structure Writer where
  output : Option OutputSettings
  tool : Option FormatTool
  accepts : String → Bool

namespace Writer

def ofSections (output : Section OutputSettings) (formatter : Section FormatterSettings)
    (accepts : String → Bool) : Except Fault Writer :=
  match formatter.effective? {} with
  | none => .error .wrongType
  | some s => do return ⟨output.effective? {}, ← s.formatTool?, accepts⟩

def backupSuffix : String := ".backup"

/-- The copy of a file goes to a path, or into the directory there. -/
def backupTarget (t : FileTree) (p : FilePath) : FilePath :=
  let copy := FilePath.ofString (p.toString ++ backupSuffix)
  if t.isDirectory copy then copy.join ⟨"", [p.name]⟩ else copy

/-- Copies a file before it is overwritten. -/
def backUp (p : FilePath) (t : FileTree) : FileTree × Except FileFault Unit :=
  match t.read p with
  | .error r => (t, .error { refusal := r, path := p.toString })
  | .ok bytes =>
    let target := backupTarget t p
    match t.write target bytes with
    | .ok t' => (t', .ok ())
    | .error r => (t, .error { refusal := r, path := target.toString })

/-- How a temporary file is shown, whatever its name. -/
def temporaryTitle : String := "<temp>"

/-- Writes a temporary file, checks its text and moves it to its path; a temporary file that cannot
be moved or is not accepted is removed. -/
def replaceFile (accepted : Bool) (p : FilePath) (bytes : List UInt8) (t : FileTree) :
    FileTree × Except WriteCause Unit :=
  match t.place p.parent >>= fun directory => t.step directory (t.freshName directory p.name) with
  | .error r => (t, .error (.file { refusal := r, path := temporaryTitle }))
  | .ok temporary =>
    let t := t.put temporary (.file bytes)
    if accepted then
      match t.move temporary p with
      | .ok t' => (t', .ok ())
      | .error r =>
        (t.erase temporary,
          .error (.file { refusal := r, path := temporaryTitle, target := some p.toString }))
    else (t.erase temporary, .error .malformed)

def overwriteFile (p : FilePath) (bytes : List UInt8) (t : FileTree) :
    FileTree × Except WriteCause Unit :=
  match t.write p bytes with
  | .ok t' => (t', .ok ())
  | .error r => (t, .error (.file { refusal := r, path := p.toString }))

/-- Only code is checked, and only where a file is replaced in one step. -/
def accepted (w : Writer) (o : OutputSettings) (p : FilePath) (content : String) : Bool :=
  !(o.validateBeforeWrite.truthy && p.suffix == ".py") || w.accepts content

/-- A path with a null character is a wrong value, not one that the file system refuses: no report
tells of it. -/
def requireNoNull (p : FilePath) : Session Unit :=
  if p.hasNull then Session.fail (.badValue .nullCharacter) else pure ()

def save (w : Writer) (o : OutputSettings) (existed : Bool) (p : FilePath) (content : String) :
    Session WriteResult := do
  let refused := fun cause => Fault.write ⟨p.toString, cause⟩
  let backup := if existed && o.backup.truthy then some (p.toString ++ backupSuffix) else none
  match backup with
  | some copy =>
    Session.change (refused ∘ .file) (backUp p)
    Session.note (.backedUp p.toString copy)
  | none => pure ()
  requireNoNull p.parent
  Session.change (refused ∘ .file) fun t => t.makeDirectories p.parent
  requireNoNull p
  let bytes := Utf8.encode content
  Session.change refused
    (if o.atomicWrite.truthy then replaceFile (w.accepted o p content) p bytes
      else overwriteFile p bytes)
  let status := if existed then .updated else .created
  Session.note (.written status.title p.toString)
  return ⟨p.toString, status, backup⟩

def formatNotices (w : Writer) (a : Artifact) (p : FilePath) : List Notice :=
  if a.format && p.suffix == ".py" then w.tool.elim [] fun tool => [.formatterMissing tool.name]
  else []

/-- Writes one artifact, as far as its mode allows. A mode of another type allows everything. -/
def write (w : Writer) (a : Artifact) : Session WriteResult := do
  let p := FilePath.ofString a.path
  let found ← Session.inspect fun t => Logged.ofExcept ((t.find? p).mapError .fileSystem)
  let existed := found.isSome
  match w.output with
  | none => Session.fail .wrongType
  | some o =>
    match existed, o.mode with
    | true, .mode .skip =>
      Session.note (.skipped p.toString)
      return { path := p.toString, status := .skipped }
    | true, .mode .error => Session.fail (.write ⟨p.toString, .exists⟩)
    | _, _ =>
      (w.formatNotices a p).forM Session.note
      w.save o existed p a.content

/-- The outcome of a batch: what was written, and what could not be, by the path asked for. -/
structure Report where
  results : List WriteResult := []
  failures : List (String × WriteFault) := []

namespace Report

def isOk (r : Report) : Bool := r.failures.isEmpty

def count (r : Report) (s : WriteStatus) : Nat := (r.results.filter (·.status == s)).length

end Report

/-- Writes all artifacts; one that cannot be written does not stop the others. -/
def writeEach (w : Writer) : List Artifact → Report → Session Report
  | [], r => pure r
  | a :: as, r => fun t =>
    match w.write a t with
    | (t', ⟨notices, .ok result⟩) =>
      let (t'', l) := w.writeEach as { r with results := r.results ++ [result] } t'
      (t'', ⟨notices ++ l.notices, l.result⟩)
    | (t', ⟨notices, .error (.write fault)⟩) =>
      let (t'', l) := w.writeEach as { r with failures := r.failures ++ [(a.path, fault)] } t'
      (t'', ⟨notices ++ .writeFailed fault :: l.notices, l.result⟩)
    | (t', ⟨notices, .error e⟩) => (t', ⟨notices, .error e⟩)

def isMissingTool : Notice → Bool
  | .formatterMissing _ => true
  | _ => false

def keepFirst (p : Notice → Bool) : List Notice → List Notice
  | [] => []
  | n :: ns => if p n then n :: ns.filter (!p ·) else n :: keepFirst p ns

/-- A missing tool is told once in a batch. -/
def writeAll (w : Writer) (as : List Artifact) : Session Report := fun t =>
  let (t', l) := w.writeEach as {} t
  (t', { l with notices := keepFirst isMissingTool l.notices })

end Writer

end SmithyGen
