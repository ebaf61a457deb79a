namespace SmithyGen.Template

inductive Problem where
  | loneBrace (brace : Char)
  | openField
  | nestedField
  | noConversion
  | afterConversion
  | openSpec
  | conversion (mark : Char)
  | tooDeep
  | emptyAccess
  | openItem
  | afterItem
  | tooManyDigits
  | bothSeparators
  | noPrecision
  | malformedSpec (spec typeName : String)
  | separatorWith (separator code : Char)
  | unknownCode (code : Char) (typeName : String)
  | blankInText
  | signInText
  | zeroInText
  | alternateInText
  | alignInText
  | precisionInInteger
  | zeroInInteger
  | signWithCharacter
  | alternateWithCharacter
  | precisionTooBig
deriving DecidableEq, Repr

/-- A character of ASCII that can be seen stands for itself, any other for its code below `limit`.
-/
def shownCode (limit : Nat) (c : Char) : String :=
  if 32 < c.toNat && c.toNat < limit then c.toString
  else "\\x" ++ String.ofList (Nat.toDigits 16 c.toNat)

def Problem.message : Problem → String
  | .loneBrace brace => "Single '" ++ brace.toString ++ "' encountered in format string"
  | .openField => "expected '\x7d' before end of string"
  | .nestedField => "unexpected '\x7b' in field name"
  | .noConversion => "end of string while looking for conversion specifier"
  | .afterConversion => "expected ':' after conversion specifier"
  | .openSpec => "unmatched '\x7b' in format spec"
  | .conversion mark => "Unknown conversion specifier " ++ shownCode 127 mark
  | .tooDeep => "Max string recursion exceeded"
  | .emptyAccess => "Empty attribute in format string"
  | .openItem => "Missing ']' in format string"
  | .afterItem => "Only '.' or '[' may follow ']' in format field specifier"
  | .tooManyDigits => "Too many decimal digits in format string"
  | .bothSeparators => "Cannot specify both ',' and '_'."
  | .noPrecision => "Format specifier missing precision"
  | .malformedSpec spec typeName =>
    "Invalid format specifier '" ++ spec ++ "' for object of type '" ++ typeName ++ "'"
  | .separatorWith separator code =>
    "Cannot specify '" ++ separator.toString ++ "' with '" ++ shownCode 128 code ++ "'."
  | .unknownCode code typeName =>
    "Unknown format code '" ++ shownCode 128 code ++ "' for object of type '" ++ typeName ++ "'"
  | .blankInText => "Space not allowed in string format specifier"
  | .signInText => "Sign not allowed in string format specifier"
  | .zeroInText => "Negative zero coercion (z) not allowed in string format specifier"
  | .alternateInText => "Alternate form (#) not allowed in string format specifier"
  | .alignInText => "'=' alignment not allowed in string format specifier"
  | .precisionInInteger => "Precision not allowed in integer format specifier"
  | .zeroInInteger => "Negative zero coercion (z) not allowed in integer format specifier"
  | .signWithCharacter => "Sign not allowed with integer format specifier 'c'"
  | .alternateWithCharacter => "Alternate form (#) not allowed with integer format specifier 'c'"
  | .precisionTooBig => "precision too big"

end SmithyGen.Template
