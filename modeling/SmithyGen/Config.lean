import SmithyGen.Fault
import SmithyGen.Value.Literal

namespace SmithyGen

/-- A section holds its settings, or a value that is no section at all. -/
inductive Section (α : Type) where
  | settings (s : α)
  | other (v : Value)

namespace Section

variable {α : Type}

/-- The settings in force. A value that counts as absent leaves the defaults; any other value has no
settings. -/
def effective? (defaults : α) : Section α → Option α
  | .settings s => some s
  | .other v => if v.truthy then none else some defaults

def given : Section α → Except Fault α
  | .settings s => .ok s
  | .other _ => .error .wrongType

end Section

/-- Which files are model texts, and how the trait of required members is read. -/
structure ParserSettings where
  extensions : List Value := [.str ".smithy"]
  strictRequired : Value := .bool false

structure BuildSettings where
  strictReferences : Value := .bool false

structure FormatterSettings where
  enabled : Value := .bool false
  tool : Value := .str "black"
  lineLength : Value := .int 100
  targetVersion : Value := .str "py312"
  stringNormalization : Value := .bool true
  magicTrailingComma : Value := .bool true

/-- What happens to a file that exists: it is kept, overwritten or reported. -/
inductive OutputMode where
  | skip
  | force
  | error
deriving DecidableEq, Repr

def OutputMode.name : OutputMode → String
  | .skip => "skip"
  | .force => "force"
  | .error => "error"

def OutputMode.ofName? : String → Option OutputMode
  | "skip" => some .skip
  | "force" => some .force
  | "error" => some .error
  | _ => none

/-- A mode, or a value other than a text that stands in its place. -/
inductive ModeSetting where
  | mode (m : OutputMode)
  | other (v : Value)

structure OutputSettings where
  mode : ModeSetting := .mode .skip
  backup : Value := .bool false
  validateBeforeWrite : Value := .bool true
  atomicWrite : Value := .bool true

/-- All settings. A document may also occupy the names under which a configuration is written back
and under which it gives its options; these are then out of reach. -/
structure Config where
  baseModule : Value := .str ""
  outputDir : Value := .str "."
  appName : Value := .null
  generateTypes : Value := .bool true
  generateServer : Value := .bool true
  generateClient : Value := .bool true
  addComment : Value := .bool true
  parser : Section ParserSettings := .settings {}
  build : Section BuildSettings := .settings {}
  formatter : Section FormatterSettings := .settings {}
  output : Section OutputSettings := .settings {}
  hidesDocument : Bool := false
  hidesOptions : Bool := false

/-- The items of a list, the characters of a text, the keys of a map. -/
def Value.sequence : Value → Except Fault (List Value)
  | .list xs => .ok xs
  | .str s => .ok (s.toList.map fun c => .str c.toString)
  | .map es => .ok (es.map fun (k, _) => .str k)
  | _ => .error .wrongType

def Value.fieldD (es : Entries Value) (k : String) (d : Value) : Value := (es.get? k).getD d

namespace ParserSettings

def defaults : ParserSettings := {}

def ofEntries (es : Entries Value) : Except Fault ParserSettings := do
  let extensions ← (Value.fieldD es "extensions" (.list defaults.extensions)).sequence
  return ⟨extensions, Value.fieldD es "strict_required" defaults.strictRequired⟩

def toValue (s : ParserSettings) : Value :=
  .map [("extensions", .list s.extensions), ("strict_required", s.strictRequired)]

end ParserSettings

namespace BuildSettings

def set (s : BuildSettings) : String × Value → Except Fault BuildSettings
  | ("strict_references", v) => .ok { s with strictReferences := v }
  | _ => .error .wrongType

def ofEntries (es : Entries Value) : Except Fault BuildSettings := es.foldlM set {}

def toValue (s : BuildSettings) : Value := .map [("strict_references", s.strictReferences)]

end BuildSettings

namespace FormatterSettings

def set (s : FormatterSettings) : String × Value → Except Fault FormatterSettings
  | ("enabled", v) => .ok { s with enabled := v }
  | ("tool", v) => .ok { s with tool := v }
  | ("line_length", v) => .ok { s with lineLength := v }
  | ("target_version", v) => .ok { s with targetVersion := v }
  | ("string_normalization", v) => .ok { s with stringNormalization := v }
  | ("magic_trailing_comma", v) => .ok { s with magicTrailingComma := v }
  | _ => .error .wrongType

def ofEntries (es : Entries Value) : Except Fault FormatterSettings := es.foldlM set {}

def toValue (s : FormatterSettings) : Value :=
  .map [("enabled", s.enabled), ("tool", s.tool), ("line_length", s.lineLength),
    ("target_version", s.targetVersion), ("string_normalization", s.stringNormalization),
    ("magic_trailing_comma", s.magicTrailingComma)]

end FormatterSettings

namespace ModeSetting

/-- A text has to name a mode. -/
def ofValue : Value → Except Fault ModeSetting
  | .str s =>
    match OutputMode.ofName? s with
    | some m => .ok (.mode m)
    | none => .error (.badValue (.outputMode (Text.quoted s)))
  | v => .ok (.other v)

def toValue : ModeSetting → Except Fault Value
  | .mode m => .ok (.str m.name)
  | .other _ => .error .wrongType

end ModeSetting

namespace OutputSettings

def defaults : OutputSettings := {}

/-- Other keys are passed over. -/
def ofEntries (es : Entries Value) : Except Fault OutputSettings := do
  let mode ← (es.get? "mode").elim (.ok defaults.mode) ModeSetting.ofValue
  return ⟨mode, Value.fieldD es "backup" defaults.backup,
    Value.fieldD es "validate_before_write" defaults.validateBeforeWrite,
    Value.fieldD es "atomic_write" defaults.atomicWrite⟩

def toValue (s : OutputSettings) : Except Fault Value := do
  return .map [("mode", ← s.mode.toValue), ("backup", s.backup),
    ("validate_before_write", s.validateBeforeWrite), ("atomic_write", s.atomicWrite)]

end OutputSettings

def Section.ofValue {α : Type} (read : Entries Value → Except Fault α) :
    Value → Except Fault (Section α)
  | .map es => (read es).map .settings
  | v => .ok (.other v)

namespace Config

/-- Sets one key of a document. Unknown keys are passed over, and three cannot be set. -/
def set (c : Config) : String × Value → Except Fault Config
  | ("base_module", v) => .ok { c with baseModule := v }
  | ("output_dir", v) => .ok { c with outputDir := v }
  | ("app_name", v) => .ok { c with appName := v }
  | ("generate_types", v) => .ok { c with generateTypes := v }
  | ("generate_server", v) => .ok { c with generateServer := v }
  | ("generate_client", v) => .ok { c with generateClient := v }
  | ("add_generation_comment", v) => .ok { c with addComment := v }
  | ("parser", v) =>
    (Section.ofValue ParserSettings.ofEntries v).map fun s => { c with parser := s }
  | ("build", v) => (Section.ofValue BuildSettings.ofEntries v).map fun s => { c with build := s }
  | ("formatter", v) =>
    (Section.ofValue FormatterSettings.ofEntries v).map fun s => { c with formatter := s }
  | ("output", v) => (Section.ofValue OutputSettings.ofEntries v).map fun s => { c with output := s }
  | ("to_dict", _) => .ok { c with hidesDocument := true }
  | ("emitter_options", _) => .ok { c with hidesOptions := true }
  | ("__class__", _) | ("__dict__", _) | ("__weakref__", _) => .error .wrongType
  | _ => .ok c

/-- A configuration document is a map; its keys are set in order. -/
def ofValue : Value → Except Fault Config
  | .map es => es.foldlM set {}
  | _ => .error .wrongType

def toValue (c : Config) : Except Fault Value := do
  if c.hidesDocument then throw .wrongType
  return .map [
    ("base_module", c.baseModule), ("output_dir", c.outputDir), ("app_name", c.appName),
    ("generate_types", c.generateTypes), ("generate_server", c.generateServer),
    ("generate_client", c.generateClient), ("add_generation_comment", c.addComment),
    ("parser", (← c.parser.given).toValue), ("build", (← c.build.given).toValue),
    ("formatter", (← c.formatter.given).toValue), ("output", ← (← c.output.given).toValue)]

end Config

end SmithyGen
