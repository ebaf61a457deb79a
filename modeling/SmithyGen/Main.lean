import SmithyGen.Code
import SmithyGen.CommandLine.Invocation
import Std.Time

namespace SmithyGen.Main

def pathOf (p : Place) : String := "/" ++ "/".intercalate p

def placeOf (path : String) : Place := (FilePath.ofString path).parts

def nodeAt? (p : Place) : IO (Option Node) := do
  let path := (← IO.currentDir) / pathOf p
  if ← path.isDir then return some .directory
  else if ← path.pathExists then return some (.file (← IO.FS.readBinFile path).toList)
  else return none

partial def nodesBelow (p : Place) : IO (List (Place × Node)) := do
  let path := (← IO.currentDir) / pathOf p
  let mut nodes := []
  for entry in ← path.readDir do
    let q := p ++ [entry.fileName]
    match ← nodeAt? q with
    | some .directory => nodes := nodes ++ (q, .directory) :: (← nodesBelow q)
    | some n => nodes := nodes ++ [(q, n)]
    | none => pure ()
  return nodes

def nodesAround (p : Place) : IO (List (Place × Node)) := do
  let mut nodes := []
  for n in List.range p.length do
    match ← nodeAt? (p.take (n + 1)) with
    | some node => nodes := nodes ++ [(p.take (n + 1), node)]
    | none => pure ()
  if (← nodeAt? p) == some .directory then nodes := nodes ++ (← nodesBelow p)
  return nodes

def namedPlaces (arguments : List String) : List Place :=
  match CommandLine.read arguments with
  | .ok a => (a.values.values.filter fun v => (FilePath.ofString v).isAbsolute).map placeOf
  | .error _ => []

/-- Places that a run would make, though something stands there already. -/
def unseen (before after : FileTree) : IO (List (Place × Node)) := do
  let mut nodes := []
  for (p, _) in after.nodes do
    if (before.node? p).isNone then
      if let some n ← nodeAt? p then nodes := nodes ++ [(p, n)]
  return nodes

def addNodes (t : FileTree) (nodes : List (Place × Node)) : FileTree :=
  nodes.foldl (fun t (p, n) => t.put p n) t

/-- Runs the command. A run that meets a part of the file system that was not read is done again
with it. -/
partial def invoke (e : CommandLine.Environment) (arguments : List String) (t : FileTree) :
    IO (FileTree × FileTree × CommandLine.Outcome) := do
  let (after, o) := CommandLine.invoke e arguments t
  match ← unseen t after with
  | [] => return (t, after, o)
  | nodes => invoke e arguments (addNodes t nodes)

def commit (before after : FileTree) : IO Unit := do
  let changed := after.nodes.filter fun (p, n) => before.node? p != some n
  for (p, n) in changed.mergeSort fun a b => a.1.length ≤ b.1.length do
    match n with
    | .directory => IO.FS.createDirAll (pathOf p)
    | .file bytes => IO.FS.writeBinFile (pathOf p) ⟨bytes.toArray⟩

def stamp : IO String := do
  let now ← Std.Time.PlainDateTime.now
  return now.format "uuuu-MM-dd HH:mm:ss,SSS" ++ " - "

def run (arguments : List String) : IO UInt32 := do
  let here := placeOf (toString (← IO.currentDir))
  let nodes := (← (here :: namedPlaces arguments).mapM nodesAround).flatten
  let level ← IO.getEnv "SMITHY_TO_CODE_LOG_LEVEL"
  let e : CommandLine.Environment :=
    { logLevel := level, stamp := ← stamp, accepts := Code.isModule }
  let (before, after, o) ← invoke e arguments (addNodes ⟨[], here⟩ nodes)
  commit before after
  IO.print o.output
  IO.eprint o.errors
  if let some f := o.fault then IO.eprintln f.message
  return UInt32.ofNat o.exit

end SmithyGen.Main

def main (arguments : List String) : IO UInt32 := SmithyGen.Main.run arguments
