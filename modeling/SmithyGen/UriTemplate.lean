import SmithyGen.Scan
import SmithyGen.Text.Basic
import SmithyGen.Text.Quoted

namespace SmithyGen.UriTemplate

/-- What stands between an opening brace and the next closing one, unless that is nothing. -/
def label? : List Char → Option (List Char × List Char)
  | '\x7b' :: cs =>
    match cs.takeWhile (· != '\x7d'), cs.dropWhile (· != '\x7d') with
    | c :: label, '\x7d' :: rest => some (c :: label, rest)
    | _, _ => none
  | _ => none

def labels (uri : List Char) : List (List Char) := Matcher.all (fun _ => label?) uri

/-- The name of a label, without the marks of greed. -/
def labelName (label : List Char) : String :=
  String.ofList (Text.dropWhileEnd (· == '+') label)

/-- Names of the labels, left to right. -/
def params (uri : String) : List String := (labels uri.toList).map labelName

/-- Greedy labels written as path converters. -/
def route (uri : String) : String :=
  String.ofList (Text.replace "+\x7d".toList ":path\x7d".toList uri.toList)

def escapeBrace (c : Char) : List Char :=
  if c == '\x7b' || c == '\x7d' then [c, c] else [c]

/-- The expression that takes a label out of the payload and quotes it. -/
def labelField (label : List Char) : List Char :=
  ("\x7b_quote(payload.pop(" ++ Text.quoted (labelName label) ++ "), greedy="
    ++ (if label.getLast? == some '+' then "True" else "False") ++ ")\x7d").toList

/-- The text of the request path inside a formatted literal: bound labels are fields, all other
braces are doubled. -/
def formatted (bound : List String) (uri : List Char) : List Char :=
  go 0 uri
where
  /-- `skip` counts the characters of a label still to be passed over. -/
  go : (skip : Nat) → List Char → List Char
  | _, [] => []
  | skip + 1, _ :: cs => go skip cs
  | 0, c :: cs =>
    match label? (c :: cs) with
    | some (label, rest) =>
      if bound.contains (labelName label) then labelField label ++ go (cs.length - rest.length) cs
      else
        (c :: (label ++ ['\x7d'])).flatMap escapeBrace ++ go (cs.length - rest.length) cs
    | none => escapeBrace c ++ go 0 cs

/-- The expression of a request path: a formatted literal where a label is bound, else a plain
one. -/
def pathExpression (uri : String) (bound : List String) : String :=
  if (params uri).any bound.contains then
    "f" ++ Text.quoted (String.ofList (formatted bound uri.toList))
  else Text.quoted uri

end SmithyGen.UriTemplate
