import SmithyGen.FileTree
import SmithyGen.Notice
import SmithyGen.Text.Upper

namespace SmithyGen.Logging

def rootChannel : String := "smithy_to_code"

/-- A channel of any other name stands below the root. -/
def channelName (name : String) : String :=
  if name == rootChannel || (Text.strip? (rootChannel ++ ".").toList name.toList).isSome then name
  else rootChannel ++ "." ++ name

def defaultRank : Nat := Level.warning.rank

/-- The rank that a name stands for, in any case. An unknown name stands for the default, and two
names for something that is no rank. -/
def rankOf (name : String) : Except Fault Nat :=
  match Text.upper name with
  | "NOTSET" => .ok 0
  | "DEBUG" => .ok 10
  | "INFO" => .ok 20
  | "WARN" | "WARNING" => .ok 30
  | "ERROR" => .ok 40
  | "FATAL" | "CRITICAL" => .ok 50
  | "BASIC_FORMAT" =>
    .error (.badValue (.logLevel (Text.quoted "%(levelname)s:%(name)s:%(message)s")))
  | "_STYLES" => .error .wrongType
  | _ => .ok defaultRank

def rankName : Nat → String
  | 0 => "NOTSET"
  | 10 => "DEBUG"
  | 20 => "INFO"
  | 30 => "WARNING"
  | 40 => "ERROR"
  | 50 => "CRITICAL"
  | n => "Level " ++ toString n

/-- The rank from which on notices are shown, and the file they go to. -/
structure Setup where
  rank : Nat
  file : Option FilePath := none
deriving DecidableEq, Repr

/-- Without a rank of its own the root channel goes by the default. -/
def Setup.threshold (s : Setup) : Nat := if s.rank == 0 then defaultRank else s.rank

/-- A rank of zero is never shown. -/
def Setup.shows (s : Setup) (rank : Nat) : Bool := 0 < rank && s.threshold ≤ rank

def line (stamp channel : String) (rank : Nat) (message : String) : String :=
  stamp ++ channel ++ " - " ++ rankName rank ++ " - " ++ message ++ "\n"

def Setup.lines (s : Setup) (stamp : String) (notices : List Notice) : String :=
  String.join ((notices.filter fun n => s.shows n.level.rank).map fun n =>
    line stamp n.channel n.level.rank n.message)

/-- The rank asked for, else the one that the environment names. -/
def chosenRank (level environment : Option String) : Except Fault Nat :=
  rankOf (level.getD (environment.getD "WARNING"))

def touch (t : FileTree) (p : FilePath) : Except Refusal FileTree :=
  if t.isFile p then .ok t else t.write p []

/-- A new set-up. A rank that cannot be found leaves the old one; a file that cannot be opened
leaves the new one without a file. -/
def configure (old : Setup) (level environment file : Option String) (t : FileTree) :
    FileTree × Setup × Except Fault Unit :=
  match chosenRank level environment with
  | .error f => (t, old, .error f)
  | .ok rank =>
    match (file.filter (· != "")).map fun f => t.absolute (FilePath.ofString f) with
    | none => (t, ⟨rank, none⟩, .ok ())
    | some p =>
      if p.hasNull then (t, ⟨rank, none⟩, .error (.badValue .nullCharacter))
      else match touch t p with
        | .ok t' => (t', ⟨rank, some p⟩, .ok ())
        | .error r => (t, ⟨rank, none⟩, .error (.fileSystem r))

def log (s : Setup) (stamp name : String) (rank : Nat) (message : String) (t : FileTree) : FileTree :=
  match s.file with
  | none => t
  | some p =>
    if s.shows rank then
      match t.read p with
      | .ok bytes =>
        match t.write p (bytes ++ Utf8.encode (line stamp (channelName name) rank message)) with
        | .ok t' => t'
        | .error _ => t
      | .error _ => t
    else t

end SmithyGen.Logging
