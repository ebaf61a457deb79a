import SmithyGen.Fault
import SmithyGen.Value

namespace SmithyGen

/-- Modules imported whole, names imported from modules, and names from relative modules, as
requested. -/
structure Imports where
  modules : List String := []
  names : List (String × List String) := []
  relative : List (String × List String) := []

namespace Imports

def standardModules : List String :=
  ["abc", "base64", "collections", "dataclasses", "datetime", "enum", "json", "logging", "os", "re",
   "typing", "urllib", "urllib.parse"]

/-- Names from a module, or the module itself where no name is given. -/
def add (i : Imports) (module : String) (names : List String) : Imports :=
  if names.isEmpty then { i with modules := i.modules ++ [module] }
  else { i with names := i.names ++ [(module, names)] }

/-- Names from a module so many packages up. -/
def addRelative (i : Imports) (module : String) (names : List String) (level : Nat) : Imports :=
  { i with relative := i.relative ++ [(String.ofList (List.replicate level '.') ++ module, names)] }

/-- Distinct texts in order of code points. -/
def sorted (xs : List String) : List String :=
  (xs.mergeSort fun a b => a ≤ b).eraseDups

/-- The modules requested, each with all names requested from it. -/
def gathered (requests : List (String × List String)) : List (String × List String) :=
  (sorted (requests.map (·.1))).map fun m =>
    (m, sorted ((requests.filter (·.1 == m)).flatMap (·.2)))

def nameLine : String × List String → String
  | (module, names) => "from " ++ module ++ " import " ++ ", ".intercalate names

def moduleLine (module : String) : String := "import " ++ module

/-- The second word of a line: the module it imports. -/
def lineKey? (line : String) : Option String :=
  (((Text.splitWhere Text.isBlank line.toList).filter (· != [])).drop 1).head?.map String.ofList

def byModule (lines : List String) : Except Fault (List String) :=
  if lines.all fun l => (lineKey? l).isSome then
    .ok (lines.mergeSort fun a b => (lineKey? a).getD "" ≤ (lineKey? b).getD "")
  else .error .noSuchIndex

def joinGroups : List (List String) → List String
  | [] => []
  | group :: groups =>
    match group, joinGroups groups with
    | [], rest => rest
    | lines, [] => lines
    | lines, rest => lines ++ "" :: rest

def isStandard (module : String) : Bool := standardModules.contains module

def lines (i : Imports) : Except Fault (List String) := do
  let modules := sorted i.modules
  let names := gathered i.names
  let named := names.filter (·.1 != "__future__")
  let future := (names.filter (·.1 == "__future__")).map nameLine
  let standard ← byModule ((modules.filter isStandard).map moduleLine
    ++ (named.filter fun (m, _) => isStandard m).map nameLine)
  let thirdParty ← byModule ((modules.filter fun m => !isStandard m).map moduleLine
    ++ (named.filter fun (m, _) => !isStandard m).map nameLine)
  return joinGroups [future, standard, thirdParty, (gathered i.relative).map nameLine]

end Imports

end SmithyGen
