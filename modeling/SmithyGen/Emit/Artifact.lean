import SmithyGen.Document.Render
import SmithyGen.FilePath
import SmithyGen.Model
import SmithyGen.Naming

namespace SmithyGen

/-- One generated file; `format` allows a formatter to run on it. -/
structure Artifact where
  path : String
  content : String
  format : Bool := true
  module : String := ""
deriving DecidableEq, Repr

namespace Emit

/-- What all parts of a package share. The output directory and the application name are as
configured and used where they are needed. -/
structure Options where
  baseModule : String
  outputDir : Value
  appName : Value
  addComment : Bool

def generationComment : String := "# Generated by smithy_to_code. Do not edit."

def Options.moduleName (o : Options) (package name : String) : String :=
  o.baseModule ++ "." ++ package ++ "." ++ Naming.snake name

def Options.document (o : Options) (module : String) (layout : Layout) (docs : String) : Document :=
  { module, layout, docstring := some docs,
    generationComment := if o.addComment then some generationComment else none }

def Options.path (o : Options) (module : String) : Except Fault String :=
  match o.outputDir with
  | .str dir =>
    match FilePath.ofModule? module dir with
    | some p => .ok p.toString
    | none => .error .noSuchIndex
  | _ => .error .wrongType

def Options.render (o : Options) (d : Document) : Except Fault Artifact := do
  let path ← o.path d.module
  let content ← d.render
  return { path, content, module := d.module }

/-- Servers and clients need an application name. -/
def Options.requireAppName (o : Options) : Except Fault Value :=
  if o.appName.truthy then .ok o.appName else .error (.configuration .appNameMissing)

/-- The module of a generated type, seen from the packages beside that of the types. -/
def typeModule (s : Shape) : String := "types." ++ Naming.snake s.name

def addType (s : Option Shape) (i : Imports) : Imports :=
  s.elim i fun s => i.addRelative (typeModule s) [s.name] 2

def addTypes (s : Service) (i : Imports) : Imports :=
  s.operations.foldl (fun i o => addType o.output (addType o.input i)) i

def selfParam : ParamDecl := { name := "self" }

def inputParams (o : Operation) : List ParamDecl :=
  o.input.elim [] fun s => [{ name := "input_data", type := some s.name }]

def outputType (o : Operation) : String := o.output.elim "None" (·.name)

end Emit

end SmithyGen
