import SmithyGen.CommandLine.Arguments
import SmithyGen.CommandLine.Help
import SmithyGen.Logging
import SmithyGen.Run

namespace SmithyGen.CommandLine

/-- The command as it was called, in short: parameters that are off are left out, and a path that
exists is shown by its name. -/
def shownValue (t : FileTree) : Value → Except Fault String
  | .str s => do
    let p := FilePath.ofString s
    return if (← (t.find? p).mapError .fileSystem).isSome then p.name else s
  | v => return v.display .plain

def shownParameter (t : FileTree) (values : Entries Value) (p : Parameter) :
    Except Fault (List String) :=
  match values.get? p.key with
  | some v =>
    if !v.truthy then return []
    else if p.isFlag then return [p.long]
    else return [p.long, ← shownValue t v]
  | none => return []

def shown (t : FileTree) (values : Entries Value) : Except Fault String := do
  return " ".intercalate (programName :: (← parameters.mapM (shownParameter t values)).flatten)

/-- What a call asks for. -/
structure Request where
  sourceDir : Option String
  documentFile : Option String
  baseModule : Option String
  appName : Option String
  outputDir : Option String
  typesOnly : Bool
  serverOnly : Bool
  clientOnly : Bool
  force : Bool
  backup : Bool
  formatCode : Bool
  strict : Bool
  configFile : Option String
  logLevel : Option String

def Request.ofValues (values : Entries Value) : Request :=
  let text := fun (p : Parameter) => (Value.field values p.key).str?
  let flag := fun (p : Parameter) => (Value.field values p.key).truthy
  { sourceDir := text CommandLine.sourceDir
    documentFile := text CommandLine.documentFile
    baseModule := (text CommandLine.baseModule).filter (· != "")
    appName := (text CommandLine.appName).filter (· != "")
    outputDir := text CommandLine.outputDir
    typesOnly := flag CommandLine.typesOnly
    serverOnly := flag CommandLine.serverOnly
    clientOnly := flag CommandLine.clientOnly
    force := flag CommandLine.force
    backup := flag CommandLine.backup
    formatCode := flag CommandLine.formatCode
    strict := flag CommandLine.strict
    configFile := text CommandLine.configFile
    logLevel := text CommandLine.logLevel }

namespace Request

def source (r : Request) : Except UsageFault String := do
  let source ← match r.sourceDir, r.documentFile with
    | some s, none => .ok s
    | none, some d => .ok d
    | _, _ => .error .source
  if 1 < [r.typesOnly, r.serverOnly, r.clientOnly].count true then throw .parts
  return source

def readConfig (r : Request) (t : FileTree) : Except Fault Config := do
  match r.configFile with
  | none => return {}
  | some file =>
    let bytes ← (t.read (FilePath.ofString file)).mapError .fileSystem
    let text ← (Utf8.decode bytes).mapError .bytes
    Config.ofValue (← (Json.decode text).mapError .json)

/-- Only settings can be changed, not a value that stands in their place. -/
def changeSection {α : Type} (on : Bool) (f : α → α) (s : Section α) : Except Fault (Section α) := do
  if on then return .settings (f (← s.given)) else return s

/-- The call wins over the configuration file. -/
def configure (r : Request) (c : Config) : Except Fault Config := do
  let c := { c with
    baseModule := r.baseModule.elim c.baseModule .str
    appName := r.appName.elim c.appName .str
    outputDir := r.outputDir.elim c.outputDir .str }
  let c := if r.typesOnly || r.serverOnly || r.clientOnly then
    { c with
      generateTypes := .bool r.typesOnly
      generateServer := .bool r.serverOnly
      generateClient := .bool r.clientOnly } else c
  let output ← changeSection r.force (fun s => { s with mode := .mode .force }) c.output
  let output ← changeSection r.backup (fun s => { s with backup := .bool true }) output
  let formatter ← changeSection r.formatCode (fun s => { s with enabled := .bool true }) c.formatter
  let parser ← changeSection r.strict (fun s => { s with strictRequired := .bool true }) c.parser
  let build ← changeSection r.strict (fun s => { s with strictReferences := .bool true }) c.build
  return { c with output, formatter, parser, build }

def session (r : Request) (accepts : String → Bool) (source : String) : Session Writer.Report := do
  let c ← Session.inspect fun t => Logged.ofExcept (r.readConfig t)
  let c ← r.configure c
  if c.baseModule.truthy then run accepts c (FilePath.ofString source)
  else Session.fail (.configuration .baseModuleMissing)

end Request

/-- What the surroundings give: the level that they ask for, the time, and a check of generated
code. -/
structure Environment where
  logLevel : Option String := none
  stamp : String := ""
  accepts : String → Bool

/-- What a call prints, and the code it ends with. A fault that is not reported in a message of its
own is given on. -/
structure Outcome where
  exit : Nat
  output : String := ""
  errors : String := ""
  fault : Option Fault := none

def summary (r : Writer.Report) : String :=
  toString (r.results.length + r.failures.length) ++ " artifact(s): "
    ++ toString (r.count .created) ++ " created, " ++ toString (r.count .updated) ++ " updated, "
    ++ toString (r.count .skipped) ++ " skipped\n"

def failureLines (r : Writer.Report) : String :=
  String.join (r.failures.map fun (path, fault) =>
    "  failed: " ++ path ++ ": " ++ fault.message ++ "\n")

def errorLine (message : String) : String := "Error: " ++ message ++ "\n"

def Outcome.ofResult (errors : String) : Except Fault Writer.Report → Outcome
  | .ok r =>
    if r.isOk then { exit := 0, output := summary r, errors }
    else
      { exit := 1, output := summary r,
        errors := errors ++ failureLines r
          ++ errorLine (toString r.failures.length ++ " artifact(s) could not be written") }
  | .error f =>
    if f.isReported then { exit := 1, errors := errors ++ errorLine f.message }
    else { exit := 1, errors, fault := some f }

def Outcome.ofUsage (errors : String) (u : UsageFault) : Outcome :=
  { exit := 2, errors := errors ++ u.report }

/-- Carries out a call whose arguments are in order. -/
def execute (e : Environment) (values : Entries Value) (t : FileTree) : FileTree × Outcome :=
  let r := Request.ofValues values
  match (do return (← Logging.chosenRank r.logLevel e.logLevel, ← shown t values)) with
  | .error f => (t, { exit := 1, fault := some f })
  | .ok (rank, call) =>
    let lines := ({ rank := rank : Logging.Setup }).lines e.stamp
    let running := lines [.running call]
    match r.source with
    | .error u => (t, .ofUsage running u)
    | .ok source =>
      let (t', l) := r.session e.accepts source t
      (t', .ofResult (running ++ lines l.notices) l.result)

def invoke (e : Environment) (arguments : List String) (t : FileTree) : FileTree × Outcome :=
  match read arguments with
  | .error u => (t, .ofUsage "" u)
  | .ok a =>
    if a.values.contains helpFlag.key then (t, { exit := 0, output := helpText })
    else match checkAll t a.values with
      | .error u => (t, .ofUsage "" u)
      | .ok values =>
        if a.extra.isEmpty then execute e (complete values) t
        else (t, .ofUsage "" (.extra a.extra))

end SmithyGen.CommandLine
