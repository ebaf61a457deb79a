import SmithyGen.Text.Basic

namespace SmithyGen

/-- The root is empty for a relative path, and one or two slashes for an absolute one. -/
structure FilePath where
  root : String
  parts : List String
deriving DecidableEq, Repr

namespace FilePath

def empty : FilePath := ⟨"", []⟩

/-- Exactly two leading slashes are a root of their own; any other number counts as one. -/
def rootOf (cs : List Char) : String :=
  match (cs.takeWhile (· == '/')).length with
  | 0 => ""
  | 2 => "//"
  | _ => "/"

def ofString (s : String) : FilePath :=
  let parts := (Text.splitWhere (· == '/') s.toList).filter fun p => p != [] && p != ['.']
  ⟨rootOf s.toList, parts.map String.ofList⟩

/-- An absolute right side replaces the left one. -/
def join (p q : FilePath) : FilePath :=
  if q.root == "" then ⟨p.root, p.parts ++ q.parts⟩ else q

def toString (p : FilePath) : String :=
  if p.root == "" && p.parts.isEmpty then "." else p.root ++ "/".intercalate p.parts

instance : ToString FilePath := ⟨FilePath.toString⟩

def isAbsolute (p : FilePath) : Bool := p.root != ""

/-- A path with a null character names nothing, and every operation on it is refused unasked. -/
def hasNull (p : FilePath) : Bool := p.parts.any fun name => name.toList.contains '\x00'

def name (p : FilePath) : String := p.parts.getLast?.getD ""

def parent (p : FilePath) : FilePath := ⟨p.root, p.parts.dropLast⟩

/-- From the last dot of a name on, if something stands before and after it. -/
def suffixOf (name : String) : String :=
  let reversed := name.toList.reverse
  let ext := reversed.takeWhile (· != '.')
  match reversed.dropWhile (· != '.') with
  | '.' :: _ :: _ => if ext.isEmpty then "" else String.ofList ('.' :: ext.reverse)
  | _ => ""

def suffix (p : FilePath) : String := suffixOf p.name

def components (p : FilePath) : List String :=
  if p.root == "" then p.parts else p.root :: p.parts

/-- The file of a dotted module name under a directory; a name without parts has none. -/
def ofModule? (module : String) (dir : String) : Option FilePath :=
  let parts := ((Text.splitWhere (· == '.') module.toList).filter (· != [])).map String.ofList
  parts.getLast?.map fun last =>
    let files := parts.dropLast ++ [last ++ ".py"]
    files.foldl (fun p f => p.join (ofString f)) (ofString dir)

end FilePath

end SmithyGen
