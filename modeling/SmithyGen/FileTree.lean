import SmithyGen.FilePath
import SmithyGen.Fault

namespace SmithyGen

/-- What stands at a place of a file tree. -/
inductive Node where
  | directory
  | file (bytes : List UInt8)
deriving DecidableEq, Repr

/-- Names from the root of a tree down. -/
abbrev Place := List String

/-- Directories and files; there are no links, and every place may be read and written. The root is
always a directory. Relative paths start at the working directory. -/
structure FileTree where
  nodes : List (Place × Node)
  workingDirectory : Place
deriving DecidableEq, Repr

namespace FileTree

def node? (t : FileTree) (p : Place) : Option Node :=
  if p = [] then some .directory else t.nodes.lookup p

def erase (t : FileTree) (p : Place) : FileTree :=
  { t with nodes := t.nodes.filter (·.1 != p) }

def put (t : FileTree) (p : Place) (n : Node) : FileTree :=
  { t with nodes := (p, n) :: (t.erase p).nodes }

theorem lookup_filter_of_ne {nodes : List (Place × Node)} {p q : Place} (h : q ≠ p) :
    (nodes.filter (·.1 != p)).lookup q = nodes.lookup q := by
  induction nodes with
  | nil => rfl
  | cons entry rest ih =>
    obtain ⟨r, n⟩ := entry
    by_cases hr : r = p
    · subst hr
      have hq : (q == r) = false := by simpa using h
      simp [List.lookup_cons, hq, ih]
    · have hkeep : (r != p) = true := by simpa using hr
      simp only [List.filter_cons, hkeep, if_true, List.lookup_cons, ih]

theorem lookup_filter_self (nodes : List (Place × Node)) (p : Place) :
    (nodes.filter (·.1 != p)).lookup p = none := by
  induction nodes with
  | nil => rfl
  | cons entry rest ih =>
    obtain ⟨r, n⟩ := entry
    by_cases hr : r = p
    · subst hr
      simp [ih]
    · have hp : (p == r) = false := by simpa using Ne.symm hr
      have hkeep : (r != p) = true := by simpa using hr
      simp only [List.filter_cons, hkeep, if_true, List.lookup_cons, hp, ih]

@[simp] theorem node?_erase_self (t : FileTree) {p : Place} (h : p ≠ []) :
    (t.erase p).node? p = none := by
  simp [node?, erase, h, lookup_filter_self]

@[simp] theorem node?_put_self (t : FileTree) {p : Place} (n : Node) (h : p ≠ []) :
    (t.put p n).node? p = some n := by
  simp [node?, put, h]

theorem node?_put_of_ne (t : FileTree) {p q : Place} (n : Node) (h : q ≠ p) :
    (t.put p n).node? q = t.node? q := by
  have hq : (q == p) = false := by simpa using h
  simp [node?, put, erase, List.lookup_cons, hq, lookup_filter_of_ne h]

/-- Names have at most so many bytes. -/
def nameLimit : Nat := 255

/-- Paths have fewer bytes. -/
def pathLimit : Nat := 4096

/-- One name further from a place, which has to be a directory. -/
def step (t : FileTree) (p : Place) (name : String) : Except Refusal Place :=
  match t.node? p with
  | some .directory =>
    if nameLimit < name.utf8ByteSize then .error .nameTooLong
    else .ok (if name == ".." then p.dropLast else p ++ [name])
  | some (.file _) => .error .notDirectory
  | none => .error .notFound

def start (t : FileTree) (p : FilePath) : Place := if p.isAbsolute then [] else t.workingDirectory

/-- The path from the root on, where two dots take back the name before them, whatever stands
there. -/
def absolute (t : FileTree) (p : FilePath) : FilePath :=
  ⟨"/", p.parts.foldl (fun q name => if name == ".." then q.dropLast else q ++ [name]) (t.start p)⟩

/-- Where a path leads; all places before the last have to be directories. A null character is
noticed before the length. -/
def place (t : FileTree) (p : FilePath) : Except Refusal Place :=
  if p.hasNull then .error .notFound
  else if p.toString.utf8ByteSize < pathLimit then p.parts.foldlM t.step (t.start p)
  else .error .nameTooLong

def status (t : FileTree) (p : FilePath) : Except Refusal Node := do
  match t.node? (← t.place p) with
  | some n => return n
  | none => throw .notFound

/-- What stands at a path, if it leads anywhere. Only a path that no node can have is refused. -/
def find? (t : FileTree) (p : FilePath) : Except Refusal (Option Node) :=
  match t.status p with
  | .ok n => .ok (some n)
  | .error .notFound | .error .notDirectory => .ok none
  | .error r => .error r

def isDirectory (t : FileTree) (p : FilePath) : Bool :=
  match t.status p with
  | .ok .directory => true
  | _ => false

def isFile (t : FileTree) (p : FilePath) : Bool :=
  match t.status p with
  | .ok (.file _) => true
  | _ => false

def read (t : FileTree) (p : FilePath) : Except Refusal (List UInt8) := do
  match ← t.status p with
  | .file bytes => return bytes
  | .directory => throw .isDirectory

def write (t : FileTree) (p : FilePath) (bytes : List UInt8) : Except Refusal FileTree := do
  let q ← t.place p
  match t.node? q with
  | some .directory => throw .isDirectory
  | _ => return t.put q (.file bytes)

/-- Makes one directory, where nothing stands yet. -/
def makeDirectory (t : FileTree) (p : FilePath) : Except Refusal FileTree := do
  let q ← t.place p
  if (t.node? q).isSome then throw .exists
  return t.put q .directory

/-- A directory that exists already will do. -/
def orDirectory (t : FileTree) (p : FilePath) (r : Refusal) : FileTree × Except FileFault Unit :=
  (t, if t.isDirectory p then .ok () else .error { refusal := r, path := p.toString })

def ensureDirectory (t : FileTree) (p : FilePath) : FileTree × Except FileFault Unit :=
  match t.makeDirectory p with
  | .ok t' => (t', .ok ())
  | .error .notFound => (t, .error { refusal := .notFound, path := p.toString })
  | .error r => t.orDirectory p r

/-- Makes the directory of the first `n` parts of a path, with those above it where they are
missing. Directories made before a refusal stay. -/
def makeDirectoriesTo (t : FileTree) (p : FilePath) : Nat → FileTree × Except FileFault Unit
  | 0 => t.ensureDirectory ⟨p.root, []⟩
  | n + 1 =>
    let q : FilePath := ⟨p.root, p.parts.take (n + 1)⟩
    match t.makeDirectory q with
    | .ok t' => (t', .ok ())
    | .error .notFound =>
      match t.makeDirectoriesTo p n with
      | (t', .ok ()) => t'.ensureDirectory q
      | refused => refused
    | .error r => t.orDirectory q r

def makeDirectories (t : FileTree) (p : FilePath) : FileTree × Except FileFault Unit :=
  t.makeDirectoriesTo p p.parts.length

def isNamed (p : FilePath) : Bool := p.parts.getLast?.elim false (· != "..")

def move (t : FileTree) (source : Place) (target : FilePath) : Except Refusal FileTree := do
  unless isNamed target do throw .busy
  let q ← t.place target
  match t.node? q, t.node? source with
  | some .directory, _ => throw .isDirectory
  | _, some n => return (t.erase source).put q n
  | _, none => throw .notFound

/-- The name of a temporary file beside a file, with a number of at least eight digits. -/
def temporaryName (name : String) (n : Nat) : String :=
  let digits := ToString.toString n
  "." ++ name ++ "." ++ String.ofList (List.replicate (8 - digits.length) '0') ++ digits ++ ".tmp"

/-- A temporary name that is free in a directory: of one more names than there are nodes, one is. -/
def freshName (t : FileTree) (directory : Place) (name : String) : String :=
  let candidates := (List.range (t.nodes.length + 1)).map (temporaryName name)
  (candidates.find? fun c => (t.node? (directory ++ [c])).isNone).getD (temporaryName name 0)

def below (t : FileTree) (p : Place) : List (Place × Node) :=
  t.nodes.filterMap fun (q, n) =>
    if q.take p.length == p && p.length < q.length then some (q.drop p.length, n) else none

end FileTree

end SmithyGen
