import SmithyGen.Config
import SmithyGen.Emit.Client
import SmithyGen.Emit.Server
import SmithyGen.Emit.Types
import SmithyGen.Logged
import SmithyGen.Model.Build
import SmithyGen.Text.IdentChar

namespace SmithyGen

/-- The parts of a package, in the order of their artifacts. -/
inductive Part where
  | types
  | server
  | client
deriving DecidableEq, Repr

/-- A dotted name whose parts are all identifiers. -/
def isModuleName (s : String) : Bool :=
  (Text.splitWhere (· == '.') s.toList).all Text.isIdentifier

namespace Config

def referencePolicy (c : Config) : Build.ReferencePolicy :=
  match c.build.effective? {} with
  | some s => if s.strictReferences.truthy then .strict else .lenient
  | none => .unset

def options (c : Config) : Except Fault Emit.Options :=
  if c.hidesOptions then .error .wrongType
  else
    let refused : Fault := .configuration (.baseModule (c.baseModule.literal .plain))
    match c.baseModule with
    | .str baseModule =>
      if baseModule != "" && isModuleName baseModule then
        .ok ⟨baseModule, c.outputDir, c.appName, c.addComment.truthy⟩
      else .error refused
    | v => .error (if v.truthy then .wrongType else refused)

def parts (c : Config) : List Part :=
  (if c.generateTypes.truthy then [.types] else [])
    ++ (if c.generateServer.truthy then [.server] else [])
    ++ (if c.generateClient.truthy then [.client] else [])

end Config

/-- What is told about the artifacts of a part; a part that needs a service tells nothing without
one. -/
def Part.notices (p : Part) (m : Model) (count : Nat) : List Notice :=
  match p with
  | .types => [.emittedTypes count]
  | .server => m.service.elim [] fun s => [.emittedServer count s.name]
  | .client => m.service.elim [] fun s => [.emittedClient s.name]

def Part.artifacts (p : Part) (m : Model) (o : Emit.Options) : Except Fault (List Artifact) :=
  match p with
  | .types => Emit.Types.artifacts m o
  | .server => Emit.Server.artifacts m o
  | .client => Emit.Client.artifacts m o

def Part.generate (m : Model) (o : Emit.Options) (p : Part) : Logged (List Artifact) := do
  let artifacts ← p.artifacts m o
  (p.notices m artifacts.length).forM Logged.note
  return artifacts

def generate (c : Config) (m : Model) : Logged (List Artifact) := do
  let o ← c.options
  let batches ← c.parts.mapM (Part.generate m o)
  let artifacts := batches.flatten
  Logged.note (.generated artifacts.length m.ns)
  return artifacts

end SmithyGen
