import SmithyGen.Fault

namespace SmithyGen

inductive Level where
  | debug
  | info
  | warning
  | error
deriving DecidableEq, Repr

def Level.rank : Level → Nat
  | .debug => 10
  | .info => 20
  | .warning => 30
  | .error => 40

def Level.name : Level → String
  | .debug => "DEBUG"
  | .info => "INFO"
  | .warning => "WARNING"
  | .error => "ERROR"

/-- A reference that leads nowhere, as met in a model. -/
inductive Dangling where
  | member (shape member target : String)
  | operation (service : String) (operation : Option String)
  | operationShape (operation shape : String)
deriving DecidableEq, Repr

def Dangling.reference : Dangling → String
  | .member _ _ target => target
  | .operation _ id => id.getD "None"
  | .operationShape _ id => id

def Dangling.referencedBy : Dangling → String
  | .member shape name _ => shape ++ "$" ++ name
  | .operation service _ => service
  | .operationShape id _ => id

def Dangling.message : Dangling → String
  | .member shape name target =>
    "Member " ++ shape ++ "$" ++ name ++ " targets unknown shape " ++ Text.quoted target
  | .operation service id =>
    "Service " ++ service ++ " references unknown operation " ++ id.elim "None" Text.quoted
      ++ ", dropping it"
  | .operationShape id shape =>
    "Operation " ++ id ++ " references unknown shape " ++ Text.quoted shape
      ++ ", using an empty structure"

inductive Notice where
  | running (commandLine : String)
  | discovered (count : Nat) (directory : String)
  | unreadable (fault : ReadFault)
  | unparsed (fault : ReadFault)
  | parsed (count : Nat) (file : String)
  | noNamespace (file : String)
  | furtherService (file service first : String)
  | redefined (shape earlier later : String)
  | merged (shapes files : Nat)
  | imported (count : Nat) (source : Option String)
  | unknownType (shape literal : String)
  | dangling (d : Dangling)
  | built (ns : String) (shapes : Nat) (service : Option (String × Nat))
  | emittedTypes (count : Nat)
  | emittedServer (count : Nat) (service : String)
  | emittedClient (service : String)
  | generated (count : Nat) (ns : String)
  | formatterMissing (tool : String)
  | skipped (path : String)
  | backedUp (path copy : String)
  | written (status path : String)
  | writeFailed (fault : WriteFault)
deriving DecidableEq, Repr

namespace Notice

def level : Notice → Level
  | .running _ | .generated .. | .written .. => .info
  | .unreadable _ | .unparsed _ | .writeFailed _ => .error
  | .noNamespace _ | .furtherService .. | .redefined .. | .unknownType .. | .dangling _
  | .formatterMissing _ | .skipped _ => .warning
  | _ => .debug

def failureLiteral : ReadCause → String
  | .noText => "TypeError(" ++ Text.quoted ReadCause.noText.message ++ ")"
  | cause => "AttributeError(" ++ Text.quoted cause.message ++ ")"

def message : Notice → String
  | .running commandLine => "Running " ++ commandLine
  | .discovered count directory =>
    "Discovered " ++ toString count ++ " source file(s) in " ++ directory
  | .unreadable fault => "Failed to read " ++ fault.file ++ ": " ++ fault.cause.message
  | .unparsed fault => "Failed to parse " ++ fault.file ++ ": " ++ failureLiteral fault.cause
  | .parsed count file => "Parsed " ++ toString count ++ " shape(s) from " ++ file
  | .noNamespace file => file ++ ": no namespace declaration, using 'unknown'"
  | .furtherService file service first =>
    file ++ ": ignoring service " ++ service ++ ", " ++ first ++ " is already declared"
  | .redefined shape earlier later =>
    "Shape " ++ shape ++ " defined in both " ++ earlier ++ " and " ++ later
      ++ ", keeping the definition from " ++ later
  | .merged shapes files =>
    "Merged " ++ toString shapes ++ " shape(s) from " ++ toString files ++ " file(s)"
  | .imported count source =>
    "Imported " ++ toString count ++ " shape(s)" ++ source.elim "" (" from " ++ ·)
  | .unknownType shape literal =>
    "Shape " ++ shape ++ " has unknown type " ++ literal ++ ", treating it as a document"
  | .dangling d => d.message
  | .built ns shapes service =>
    "Built model " ++ ns ++ ": " ++ toString shapes ++ " shape(s), "
      ++ service.elim "no service" fun (name, operations) =>
        "service " ++ name ++ " with " ++ toString operations ++ " operation(s)"
  | .emittedTypes count => "Emitted " ++ toString count ++ " type artifact(s)"
  | .emittedServer count service =>
    "Emitted " ++ toString count ++ " server artifact(s) for " ++ service
  | .emittedClient service => "Emitted client artifact for " ++ service
  | .generated count ns => "Generated " ++ toString count ++ " artifact(s) for " ++ ns
  | .formatterMissing tool =>
    if tool == "black" then "black is not installed, generated code is left unformatted"
    else tool ++ " is not available, generated code is left unformatted"
  | .skipped path => "Skipping existing file " ++ path ++ " (use force mode to overwrite)"
  | .backedUp path copy => "Backed up " ++ path ++ " to " ++ copy
  | .written status path => status ++ " " ++ path
  | .writeFailed fault => fault.message

def channel : Notice → String
  | .running _ => "smithy_to_code.smithy_to_code"
  | .discovered .. | .redefined .. | .merged .. => "smithy_to_code.pipeline.smithy_ast.loader"
  | .unreadable _ | .unparsed _ | .parsed .. | .noNamespace _ | .furtherService .. =>
    "smithy_to_code.pipeline.smithy_ast.text_parser"
  | .imported .. => "smithy_to_code.pipeline.smithy_ast.importer"
  | .unknownType .. | .dangling _ | .built .. => "smithy_to_code.pipeline.analyzer.builder"
  | .emittedTypes _ => "smithy_to_code.pipeline.emitters.type_emitter"
  | .emittedServer .. => "smithy_to_code.pipeline.emitters.service_emitter"
  | .emittedClient _ => "smithy_to_code.pipeline.emitters.client_emitter"
  | .generated .. => "smithy_to_code.pipeline.generator"
  | .formatterMissing tool => "smithy_to_code.pipeline.formatters." ++ tool ++ "_formatter"
  | .skipped _ | .backedUp .. | .written .. | .writeFailed _ =>
    "smithy_to_code.pipeline.writer.writer"

end Notice

end SmithyGen
