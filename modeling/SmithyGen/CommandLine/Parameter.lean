import SmithyGen.Text.Quoted

namespace SmithyGen.CommandLine

inductive Kind where
  | flag
  | text
  | path (mustExist allowsFile allowsDirectory : Bool)
  | choice (values : List String)
deriving DecidableEq, Repr

structure Parameter where
  key : String
  long : String
  short : Option String := none
  kind : Kind
  help : String := ""
deriving DecidableEq, Repr

def commandName : String := "smithy-to-code"

/-- The name of the program in its own notices. -/
def programName : String := "smithy_to_code"

def sourceDir : Parameter :=
  ⟨"source_dir", "--source-dir", some "-s", .path true true true, "Directory of .smithy files"⟩

def documentFile : Parameter :=
  ⟨"document", "--document", some "-d", .path true true false, "Smithy JSON AST document"⟩

def baseModule : Parameter :=
  ⟨"base_module", "--base-module", some "-m", .text, "Dotted module prefix, e.g. my_app.generated"⟩

def appName : Parameter :=
  ⟨"app_name", "--app-name", some "-a", .text, "Application identifier (server and client)"⟩

def outputDir : Parameter := ⟨"output_dir", "--output-dir", some "-o", .path false false true, ""⟩

def typesOnly : Parameter := ⟨"types_only", "--types-only", none, .flag, ""⟩

def serverOnly : Parameter := ⟨"server_only", "--server-only", none, .flag, ""⟩

def clientOnly : Parameter := ⟨"client_only", "--client-only", none, .flag, ""⟩

def force : Parameter := ⟨"force", "--force", none, .flag, "Overwrite existing files"⟩

def backup : Parameter :=
  ⟨"backup", "--backup", none, .flag, "Keep a .backup copy of overwritten files"⟩

def formatCode : Parameter :=
  ⟨"format_code", "--format", none, .flag, "Run the configured formatter (black by default)"⟩

def strict : Parameter :=
  ⟨"strict", "--strict", none, .flag,
    "Exact @required attribution and unresolved references as errors"⟩

def configFile : Parameter := ⟨"config", "--config", some "-c", .path true true false, ""⟩

def logLevel : Parameter :=
  ⟨"log_level", "--log-level", none, .choice ["DEBUG", "INFO", "WARNING", "ERROR"], ""⟩

def parameters : List Parameter :=
  [sourceDir, documentFile, baseModule, appName, outputDir, typesOnly, serverOnly, clientOnly, force,
   backup, formatCode, strict, configFile, logLevel]

def helpFlag : Parameter := ⟨"help", "--help", none, .flag, "Show this message and exit."⟩

def known : List Parameter := parameters ++ [helpFlag]

namespace Parameter

def title (p : Parameter) : String :=
  Text.quoted p.long ++ p.short.elim "" fun s => " / " ++ Text.quoted s

def isFlag (p : Parameter) : Bool := p.kind == .flag

end Parameter

def pathTitle (allowsFile allowsDirectory : Bool) : String :=
  if allowsFile && allowsDirectory then "Path" else if allowsFile then "File" else "Directory"

inductive ValueProblem where
  | missing (title path : String)
  | isFile (title path : String)
  | isDirectory (title path : String)
  | noChoice (value : String) (choices : List String)
deriving DecidableEq, Repr

def ValueProblem.message : ValueProblem → String
  | .missing title path => title ++ " " ++ Text.quoted path ++ " does not exist."
  | .isFile title path => title ++ " " ++ Text.quoted path ++ " is a file."
  | .isDirectory title path => title ++ " " ++ Text.quoted path ++ " is a directory."
  | .noChoice value choices =>
    Text.quoted value ++ " is not one of " ++ ", ".intercalate (choices.map Text.quoted) ++ "."

/-- A command that cannot be understood. -/
inductive UsageFault where
  | needsValue (name : String)
  | takesNoValue (name : String)
  | unknown (name : String) (close : List String)
  | badValue (parameter : Parameter) (problem : ValueProblem)
  | extra (arguments : List String)
  | source
  | parts
deriving DecidableEq, Repr

namespace UsageFault

def suggestion : List String → String
  | [] => ""
  | [name] => " Did you mean " ++ name ++ "?"
  | names => " (Possible options: " ++ ", ".intercalate (names.mergeSort fun a b => a ≤ b) ++ ")"

def message : UsageFault → String
  | .needsValue name => "Option " ++ Text.quoted name ++ " requires an argument."
  | .takesNoValue name => "Option " ++ Text.quoted name ++ " does not take a value."
  | .unknown name close => "No such option: " ++ name ++ suggestion close
  | .badValue parameter problem =>
    "Invalid value for " ++ parameter.title ++ ": " ++ problem.message
  | .extra [argument] => "Got unexpected extra argument (" ++ argument ++ ")"
  | .extra arguments => "Got unexpected extra arguments (" ++ " ".intercalate arguments ++ ")"
  | .source => "Give exactly one of --source-dir or --document"
  | .parts => "--types-only, --server-only and --client-only are mutually exclusive"

/-- Faults in how a value is attached come without the usage line. -/
def showsUsage : UsageFault → Bool
  | .needsValue _ | .takesNoValue _ => false
  | _ => true

end UsageFault

def usageLine : String := "Usage: " ++ commandName ++ " [OPTIONS]\n"

def UsageFault.report (u : UsageFault) : String :=
  (if u.showsUsage then
    usageLine ++ "Try '" ++ commandName ++ " --help' for help.\n\n" else "")
    ++ "Error: " ++ u.message ++ "\n"

end SmithyGen.CommandLine
