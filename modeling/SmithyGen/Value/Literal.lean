import SmithyGen.Number.Shortest
import SmithyGen.Text.Quoted
import SmithyGen.Value

namespace SmithyGen.Value

/-- Whether a value is shown as written or as a model holds it. -/
inductive Form where
  | plain
  | sealed
deriving DecidableEq, Repr

def tuple : List String → String
  | [x] => "(" ++ x ++ ",)"
  | xs => "(" ++ ", ".intercalate xs ++ ")"

def Form.list : Form → List String → String
  | .plain, xs => "[" ++ ", ".intercalate xs ++ "]"
  | .sealed, xs => tuple xs

def Form.map : Form → List String → String
  | .plain, xs => "\x7b" ++ ", ".intercalate xs ++ "\x7d"
  | .sealed, xs => "mappingproxy(\x7b" ++ ", ".intercalate xs ++ "\x7d)"

mutual

def literal (form : Form) : Value → String
  | .null => "None"
  | .bool b => if b then "True" else "False"
  | .int n => toString n
  | .float x => x.text
  | .str s => Text.quoted s
  | .list xs => form.list (literals form xs)
  | .map es => form.map (fieldLiterals form es)
termination_by structural v => v

def literals (form : Form) : List Value → List String
  | [] => []
  | v :: vs => literal form v :: literals form vs
termination_by structural vs => vs

def fieldLiterals (form : Form) : List (String × Value) → List String
  | [] => []
  | (k, v) :: es => (Text.quoted k ++ ": " ++ literal form v) :: fieldLiterals form es
termination_by structural es => es

end

/-- As running text: a string stands for itself, and a map shows no view around it. -/
def display (form : Form) : Value → String
  | .str s => s
  | .map es => Form.plain.map (fieldLiterals form es)
  | v => literal form v

end SmithyGen.Value
