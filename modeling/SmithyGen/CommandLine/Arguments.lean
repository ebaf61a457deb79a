import SmithyGen.CommandLine.Parameter
import SmithyGen.FileTree
import SmithyGen.Text.Similar
import SmithyGen.Value

namespace SmithyGen.CommandLine

/-- The text given for each parameter, in the order in which they were first named, and what belongs
to none. A flag has an empty text. -/
structure Arguments where
  values : Entries String := []
  extra : List String := []

/-- What one argument says: a parameter with its text, and whether the text was the next argument.
-/
structure Match where
  parameter : Parameter
  value : String
  takesNext : Bool

def attach (p : Parameter) (name : String) (attached next : Option String) :
    Except UsageFault Match :=
  match p.isFlag, attached, next with
  | true, none, _ => .ok ⟨p, "", false⟩
  | true, some _, _ => .error (.takesNoValue name)
  | false, some value, _ => .ok ⟨p, value, false⟩
  | false, none, some value => .ok ⟨p, value, true⟩
  | false, none, none => .error (.needsValue name)

def splitLong (cs : List Char) : String × Option String :=
  let name := String.ofList (cs.takeWhile (· != '='))
  match cs.dropWhile (· != '=') with
  | [] => (name, none)
  | _ :: value => (name, some (String.ofList value))

/-- Reads an argument that starts with a dash. Every short option takes a text, which may follow its
letter at once. -/
def matchOption (argument : String) (next : Option String) : Except UsageFault Match :=
  let (name, attached) := splitLong argument.toList
  match known.find? (·.long == name), argument.toList with
  | some p, _ => attach p name attached next
  | none, '-' :: '-' :: _ => .error (.unknown name (Text.closeTexts name (known.map (·.long))))
  | none, _ :: letter :: rest =>
    let name := String.ofList ['-', letter]
    match known.find? (·.short == some name) with
    | some p =>
      attach p name (if rest.isEmpty then none else some (String.ofList rest)) next
    | none => .error (.unknown name [])
  | none, _ => .error (.unknown name [])

def isOption (argument : String) : Bool :=
  match argument.toList with
  | '-' :: _ :: _ => true
  | _ => false

/-- After two dashes nothing is an option. `skip` says that the next argument is taken already. -/
def readFrom : (skip : Bool) → List String → Arguments → Except UsageFault Arguments
  | _, [], a => .ok a
  | true, _ :: rest, a => readFrom false rest a
  | false, argument :: rest, a =>
    if argument == "--" then .ok { a with extra := a.extra ++ rest }
    else if isOption argument then do
      let m ← matchOption argument rest.head?
      readFrom m.takesNext rest { a with values := a.values.insert m.parameter.key m.value }
    else readFrom false rest { a with extra := a.extra ++ [argument] }

def read (arguments : List String) : Except UsageFault Arguments := readFrom false arguments {}

def checkPath (t : FileTree) (mustExist allowsFile allowsDirectory : Bool) (path : String) :
    Except ValueProblem String :=
  let p := t.absolute (FilePath.ofString path)
  let title := pathTitle allowsFile allowsDirectory
  match t.status p with
  | .error _ => if mustExist then .error (.missing title path) else .ok p.toString
  | .ok (.file _) => if allowsFile then .ok p.toString else .error (.isFile title path)
  | .ok .directory => if allowsDirectory then .ok p.toString else .error (.isDirectory title path)

/-- The choice that a text names in any case. -/
def checkChoice (choices : List String) (value : String) : Except ValueProblem String :=
  let lower := fun (s : String) => s.toList.map Char.toLower
  match choices.find? fun c => lower c == lower value with
  | some c => .ok c
  | none => .error (.noChoice value choices)

def check (t : FileTree) (p : Parameter) (value : String) : Except ValueProblem Value :=
  match p.kind with
  | .flag => .ok (.bool true)
  | .text => .ok (.str value)
  | .path mustExist allowsFile allowsDirectory =>
    (checkPath t mustExist allowsFile allowsDirectory value).map .str
  | .choice choices => (checkChoice choices value).map .str

/-- The value of a parameter that is not given. -/
def Parameter.absent (p : Parameter) : Value := if p.isFlag then .bool false else .null

/-- Checks the texts in the order in which their parameters were named. -/
def checkAll (t : FileTree) : Entries String → Except UsageFault (Entries Value)
  | [] => .ok []
  | (key, value) :: rest =>
    match parameters.find? (·.key == key) with
    | none => checkAll t rest
    | some p => do
      let v ← (check t p value).mapError (.badValue p)
      let vs ← checkAll t rest
      return (key, v) :: vs

def complete (values : Entries Value) : Entries Value :=
  parameters.map fun p => (p.key, (values.get? p.key).getD p.absent)

end SmithyGen.CommandLine
