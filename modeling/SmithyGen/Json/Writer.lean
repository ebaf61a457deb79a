import SmithyGen.Number.Shortest
import SmithyGen.Text.Quoted
import SmithyGen.Value

namespace SmithyGen.Json

def escape (c : Char) : List Char :=
  if c == '"' || c == '\\' then ['\\', c]
  else if c.toNat < 32 then '\\' :: 'u' :: Text.hexDigits 4 c.toNat
  else [c]

def quote (s : String) : String :=
  String.ofList ('"' :: (s.toList.flatMap escape ++ ['"']))

mutual

def render : Value → String
  | .null => "null"
  | .bool b => if b then "true" else "false"
  | .int n => toString n
  | .float x => x.text
  | .str s => quote s
  | .list xs => "[" ++ ",".intercalate (renderItems xs) ++ "]"
  | .map es => "\x7b" ++ ",".intercalate (renderFields es) ++ "\x7d"
termination_by structural v => v

def renderItems : List Value → List String
  | [] => []
  | v :: vs => render v :: renderItems vs
termination_by structural vs => vs

def renderFields : List (String × Value) → List String
  | [] => []
  | (k, v) :: es => (quote k ++ ":" ++ render v) :: renderFields es
termination_by structural es => es

end

end SmithyGen.Json
