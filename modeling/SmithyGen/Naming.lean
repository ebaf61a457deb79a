import SmithyGen.Scan
import SmithyGen.Text.Basic
import SmithyGen.Text.DigitChar
import SmithyGen.Text.WordChar

namespace SmithyGen.Naming

/-- The word that starts a text: capitals and the small letters after the last of them, where a run
of several capitals leaves its last one to the next word; or a run of digits. -/
def word? (cs : List Char) : Option (List Char × List Char) :=
  let rest := cs.dropWhile Char.isUpper
  let small := rest.takeWhile Char.isLower
  match cs.takeWhile Char.isUpper with
  | [] =>
    if small.isEmpty then
      let digits := cs.takeWhile Char.isDigit
      if digits.isEmpty then none else some (digits, cs.dropWhile Char.isDigit)
    else some (small, rest.dropWhile Char.isLower)
  | [c] => some (c :: small, rest.dropWhile Char.isLower)
  | caps =>
    if small.isEmpty then some (caps, rest)
    else some (caps.dropLast, caps.getLast? |>.elim rest (· :: rest))

def words (cs : List Char) : List (List Char) := Matcher.all (fun _ => word?) cs

/-- Lower-case words joined by underscores, what stands between words left out. -/
def snake (s : String) : String :=
  String.ofList (Text.joinWith ['_'] ((words s.toList).map (·.map Char.toLower)))

def constant (s : String) : String :=
  String.ofList (Text.joinWith ['_'] ((words s.toList).map (·.map Char.toUpper)))

/-- Words reserved by the generated language, always or in some positions. -/
def keywords : List String :=
  ["False", "None", "True", "and", "as", "assert", "async", "await", "break", "class", "continue",
   "def", "del", "elif", "else", "except", "finally", "for", "from", "global", "if", "import", "in",
   "is", "lambda", "nonlocal", "not", "or", "pass", "raise", "return", "try", "while", "with",
   "yield", "_", "case", "match"]

/-- Only word characters, no digit in front, no reserved word. -/
def identifier (name : String) : String :=
  let cleaned := name.toList.map fun c => if Text.isWord c then c else '_'
  let started := match cleaned with
    | [] => ['_']
    | c :: _ => if Text.isDigitLike c then '_' :: cleaned else cleaned
  let s := String.ofList started
  if keywords.contains s then s ++ "_" else s

/-- The attribute that holds a member, or the method that serves an operation. -/
def attributeName (name : String) : String :=
  let s := snake name
  identifier (if s == "" then name else s)

/-- Names that a generated class binds itself. -/
def boundNames : List String :=
  ["field", "config", "validate", "to_dict", "from_dict", "to_json", "from_json", "schema",
   "dataclass_json_config"]

/-- The attribute of a member in a generated type, moved aside where the class binds the name. -/
def fieldAttribute (name : String) : String :=
  let a := attributeName name
  if boundNames.contains a then a ++ "_" else a

/-- What follows the first `#` of a shape id, or all of it. -/
def shapeName (id : String) : String :=
  match id.toList.dropWhile (· != '#') with
  | [] => id
  | _ :: name => String.ofList name

/-- What precedes the first `#` of a shape id, or nothing. -/
def shapeNamespace (id : String) : String :=
  if id.toList.contains '#' then String.ofList (id.toList.takeWhile (· != '#')) else ""

end SmithyGen.Naming
