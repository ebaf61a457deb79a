import SmithyGen.Json.Reader
import SmithyGen.Template.Problem
import SmithyGen.Text.Quoted
import SmithyGen.Text.Utf8

namespace SmithyGen

/-- What the file system refuses. -/
inductive Refusal where
  | notFound
  | busy
  | exists
  | notDirectory
  | isDirectory
  | nameTooLong
deriving DecidableEq, Repr

def Refusal.text : Refusal → String
  | .notFound => "[Errno 2] No such file or directory"
  | .busy => "[Errno 16] Device or resource busy"
  | .exists => "[Errno 17] File exists"
  | .notDirectory => "[Errno 20] Not a directory"
  | .isDirectory => "[Errno 21] Is a directory"
  | .nameTooLong => "[Errno 36] File name too long"

/-- A refusal at a path, or of moving a path to a target. -/
structure FileFault where
  refusal : Refusal
  path : String
  target : Option String := none
deriving DecidableEq, Repr

def FileFault.message (f : FileFault) : String :=
  f.refusal.text ++ ": " ++ Text.quoted f.path
    ++ f.target.elim "" fun t => " -> " ++ Text.quoted t

inductive ConfigurationFault where
  | baseModule (literal : String)
  | baseModuleMissing
  | appNameMissing
  | formatter (literal : String)
deriving DecidableEq, Repr

def ConfigurationFault.message : ConfigurationFault → String
  | .baseModule literal => "Invalid base module: " ++ literal
  | .baseModuleMissing => "A base module is required (--base-module or the config file)"
  | .appNameMissing => "An application name is required for service and client generation"
  | .formatter literal => "Unknown formatter " ++ literal ++ " (choices=black, ruff)"

inductive ReadCause where
  | file (fault : FileFault)
  | bytes (fault : Utf8.Fault)
  | noText
  | noSetting (typeName : String)
deriving DecidableEq, Repr

def ReadCause.message : ReadCause → String
  | .file fault => fault.message
  | .bytes fault => fault.message
  | .noText => "expected string or bytes-like object, got 'NoneType'"
  | .noSetting typeName => "'" ++ typeName ++ "' object has no attribute 'strict_required'"

/-- A model text that could not be read. -/
structure ReadFault where
  file : String
  cause : ReadCause
deriving DecidableEq, Repr

def ReadFault.message (f : ReadFault) : String :=
  "Failed to parse " ++ f.file ++ ": " ++ f.cause.message

inductive DocumentCause where
  | json (error : Json.Error)
  | file (fault : FileFault)
  | notObject (typeName : String)
  | shapesNotObject (typeName : String)
  | metadataNotObject (typeName : String)
  | shapeNotObject (id typeName : String)
deriving DecidableEq, Repr

def DocumentCause.message : DocumentCause → String
  | .json error => error.message
  | .file fault => fault.message
  | .notObject typeName => "expected a JSON object, got " ++ typeName
  | .shapesNotObject typeName => "\"shapes\" must be an object, got " ++ typeName
  | .metadataNotObject typeName => "\"metadata\" must be an object, got " ++ typeName
  | .shapeNotObject id typeName =>
    "shape " ++ Text.quoted id ++ " must be an object, got " ++ typeName

inductive NamespaceCause where
  | noShapes
  | firstShape (literal : String)
deriving DecidableEq, Repr

def NamespaceCause.message : NamespaceCause → String
  | .noShapes => "no namespace in metadata and no shape ids"
  | .firstShape literal => "first shape id " ++ literal ++ " has no namespace"

inductive WriteCause where
  | exists
  | malformed
  | file (fault : FileFault)
deriving DecidableEq, Repr

def WriteCause.message : WriteCause → String
  | .exists => "file already exists"
  | .malformed => "generated Python code is not valid"
  | .file fault => fault.message

/-- An artifact that could not be written. -/
structure WriteFault where
  path : String
  cause : WriteCause
deriving DecidableEq, Repr

def WriteFault.message (f : WriteFault) : String :=
  "Failed to write " ++ f.path ++ ": " ++ f.cause.message

/-- A value of the right type that is none of those allowed. -/
inductive ValueFault where
  | outputMode (literal : String)
  | noBound (rule field : String)
  | pairLength (index length : Nat)
  | template (problem : Template.Problem)
  | logLevel (literal : String)
  | nullCharacter
deriving DecidableEq, Repr

def ValueFault.message : ValueFault → String
  | .outputMode literal => literal ++ " is not a valid OutputMode"
  | .noBound rule field => rule ++ " for " ++ field ++ " needs a minimum or a maximum"
  | .pairLength index length =>
    "dictionary update sequence element #" ++ toString index ++ " has length " ++ toString length
      ++ "; 2 is required"
  | .template problem => problem.message
  | .logLevel literal => "Unknown level: " ++ literal
  | .nullCharacter => "embedded null byte"

/-- Faults that name a fault of the input, then faults of the values that met an operation not made
for them. -/
inductive Fault where
  | configuration (cause : ConfigurationFault)
  | noSources (directory : String) (extensions : List String)
  | unreadable (fault : ReadFault)
  | unreadableFiles (faults : List ReadFault)
  | document (cause : DocumentCause) (source : Option String)
  | noNamespace (cause : NamespaceCause)
  | dangling (reference referencedBy : String)
  | write (fault : WriteFault)
  | statusCode (traitId shapeId literal : String)
  | json (error : Json.Error)
  | bytes (fault : Utf8.Fault)
  | badValue (fault : ValueFault)
  | missingKey (literal : String)
  | wrongType
  | noSuchIndex
  | overflow
  | tooLarge
  | noTemplate
  | fileSystem (refusal : Refusal)
deriving DecidableEq, Repr

def Fault.message : Fault → String
  | .configuration cause => cause.message
  | .noSources directory extensions =>
    "No IDL source files found in " ++ directory
      ++ (if extensions.isEmpty then "" else " (extensions=" ++ ", ".intercalate extensions ++ ")")
  | .unreadable fault => fault.message
  | .unreadableFiles faults =>
    toString faults.length ++ " file(s) failed to parse: " ++ ", ".intercalate (faults.map (·.file))
  | .document cause source =>
    "Invalid AST document" ++ source.elim "" (" in " ++ ·) ++ ": " ++ cause.message
  | .noNamespace cause => "Namespace not found: " ++ cause.message
  | .dangling reference referencedBy =>
    "Unresolved reference " ++ Text.quoted reference ++ " (referenced_by=" ++ referencedBy ++ ")"
  | .write fault => fault.message
  | .statusCode traitId shapeId literal =>
    "Invalid " ++ traitId ++ " trait on " ++ shapeId ++ ": status code " ++ literal
      ++ " is not an integer"
  | .json error => error.message
  | .bytes fault => fault.message
  | .badValue fault => fault.message
  | .missingKey literal => literal
  | .wrongType => "a value of another type is needed"
  | .noSuchIndex => "no such index"
  | .overflow => "no integer is so large"
  | .tooLarge => "no text is so long"
  | .noTemplate => "no such template"
  | .fileSystem refusal => refusal.text

/-- Whether the fault is one that the generator reports itself, and not one of a value's type. -/
def Fault.isReported : Fault → Bool
  | .configuration _ | .noSources .. | .unreadable _ | .unreadableFiles _ | .document ..
  | .noNamespace _ | .dangling .. | .write _ | .statusCode .. => true
  | _ => false

end SmithyGen
