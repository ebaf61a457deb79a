import SmithyGen.Model.Resolve
import SmithyGen.Template

namespace SmithyGen

/-- The field a rule looks at: its attribute, the member it is reported as, and whether it is
required. -/
structure RuleField where
  attributeName : String
  member : String
  isRequired : Bool
deriving DecidableEq, Repr

/-- Bounds that are null are absent. -/
structure Bounds where
  min : Value
  max : Value

inductive Rule where
  | required (fields : List (String × String))
  | length (field : RuleField) (bounds : Bounds)
  | range (field : RuleField) (bounds : Bounds)
  | pattern (field : RuleField) (pattern : String)

namespace Bounds

def isNull : Value → Bool
  | .null => true
  | _ => false

def isEmpty (b : Bounds) : Bool := isNull b.min && isNull b.max

def ofEntries (es : Entries Value) : Bounds := ⟨Value.field es "min", Value.field es "max"⟩

def ofTrait? : Value → Option Bounds
  | .map es => if (ofEntries es).isEmpty then none else some (ofEntries es)
  | _ => none

def variant (b : Bounds) : String :=
  match isNull b.min, isNull b.max with
  | false, false => "between"
  | false, true => "min"
  | true, _ => "max"

end Bounds

namespace Rule

def kind : Rule → String
  | .required _ => "RequiredFieldsRule"
  | .length .. => "LengthRule"
  | .range .. => "RangeRule"
  | .pattern .. => "PatternRule"

def variant? : Rule → Option String
  | .length _ b | .range _ b => some b.variant
  | _ => none

def field? : Rule → Option RuleField
  | .required _ => none
  | .length f _ | .range f _ | .pattern f _ => some f

def isRequired (r : Rule) : Bool := r.field?.elim true (·.isRequired)

/-- An optional field is only looked at where it has a value. -/
def guardsNone (r : Rule) : Bool := !r.isRequired

def pairs (fields : List (String × String)) : Template.Subject :=
  .value .sealed (.list (fields.map fun (a, m) => .list [.str a, .str m]))

def fieldParams (f : RuleField) : Entries Template.Subject :=
  [("field_name", .ofString f.attributeName), ("member", .ofString f.member)]

def params (form : Value.Form) : Rule → Entries Template.Subject
  | .required fields => [("fields", pairs fields)]
  | .length f b | .range f b =>
    fieldParams f ++ [("min", .value form b.min), ("max", .value form b.max)]
  | .pattern f p => fieldParams f ++ [("pattern", .ofString p)]

/-- The texts of the rules, as shipped. -/
def templates : Value :=
  .map [
    ("_template", .map [
      ("if_line", .str "if \x7bcondition\x7d:"),
      ("raise_line", .str "    raise ValueError(\x7berror_message!r\x7d)")]),
    ("RequiredFieldsRule", .map [
      ("lines", .list [
        .str "missing = [member for name, member in \x7bfields!r\x7d if getattr(self, name) is None]",
        .str "if missing:",
        .str "    raise ValueError(\"Missing required field(s): \" + \", \".join(missing))"])]),
    ("LengthRule", .map [
      ("condition_between", .str "not \x7bmin\x7d <= len(self.\x7bfield_name\x7d) <= \x7bmax\x7d"),
      ("error_message_between",
        .str "\x7bmember\x7d length must be between \x7bmin\x7d and \x7bmax\x7d"),
      ("condition_min", .str "len(self.\x7bfield_name\x7d) < \x7bmin\x7d"),
      ("error_message_min", .str "\x7bmember\x7d length must be at least \x7bmin\x7d"),
      ("condition_max", .str "len(self.\x7bfield_name\x7d) > \x7bmax\x7d"),
      ("error_message_max", .str "\x7bmember\x7d length must be at most \x7bmax\x7d")]),
    ("RangeRule", .map [
      ("condition_between", .str "not \x7bmin\x7d <= self.\x7bfield_name\x7d <= \x7bmax\x7d"),
      ("error_message_between", .str "\x7bmember\x7d must be between \x7bmin\x7d and \x7bmax\x7d"),
      ("condition_min", .str "self.\x7bfield_name\x7d < \x7bmin\x7d"),
      ("error_message_min", .str "\x7bmember\x7d must be at least \x7bmin\x7d"),
      ("condition_max", .str "self.\x7bfield_name\x7d > \x7bmax\x7d"),
      ("error_message_max", .str "\x7bmember\x7d must be at most \x7bmax\x7d")]),
    ("PatternRule", .map [
      ("condition", .str "not re.search(\x7bpattern!r\x7d, self.\x7bfield_name\x7d)"),
      ("error_message", .str "\x7bmember\x7d must match pattern \x7bpattern\x7d")])]

/-- Looks a key up in a value; `missing` words its absence. Other values than maps hold a key only
as an item or a part, and then cannot be indexed by it. -/
def lookUp (missing : String) (key : String) : Value → Except Fault Value
  | .map es => (Entries.get? key es).elim (.error (.missingKey (Text.quoted missing))) .ok
  | .list xs =>
    if xs.any fun v => v.str? == some key then .error .wrongType
    else .error (.missingKey (Text.quoted missing))
  | .str s =>
    if Text.occursIn key.toList s.toList then .error .wrongType
    else .error (.missingKey (Text.quoted missing))
  | _ => .error .wrongType

def text (form : Value.Form) (templates : Value) (r : Rule) (key : String) : Except Fault Value := do
  let own ← lookUp ("No string templates found for " ++ r.kind) r.kind templates
  let template ← lookUp ("Key '" ++ key ++ "' not found in templates for " ++ r.kind) key own
  Template.fillValue (r.params form) template

/-- A shared line, with its wording where the templates give none. -/
def sharedLine (templates : Value) (key fallback : String) (params : Entries Template.Subject) :
    Except Fault String := do
  match templates with
  | .map es =>
    match (Entries.get? "_template" es).getD (.map []) with
    | .map shared =>
      match (Entries.get? key shared).getD (.str fallback) with
      | .str s => Template.fill params s
      | _ => throw .wrongType
    | _ => throw .wrongType
  | _ => throw .wrongType

def guarded (r : Rule) (condition : Value) : Value :=
  match r.field? with
  | some f =>
    if f.isRequired then condition
    else .str ("self." ++ f.attributeName ++ " is not None and " ++ condition.display .plain)
  | none => condition

/-- The code of a rule: for required fields the lines of their template, else an if and a raise. -/
def code (form : Value.Form) (templates : Value) (r : Rule) : Except Fault Value := do
  match r with
  | .required _ => r.text form templates "lines"
  | _ =>
    let ending := r.variant?.elim "" ("_" ++ ·)
    let condition ← r.text form templates ("condition" ++ ending)
    let message ← r.text form templates ("error_message" ++ ending)
    let ifLine ← sharedLine templates "if_line" "if \x7bcondition\x7d:"
      [("condition", .value .plain (r.guarded condition))]
    let raiseLine ← sharedLine templates "raise_line" "    raise ValueError(\x7berror_message!r\x7d)"
      [("error_message", .value .plain message)]
    return .list [.str ifLine, .str raiseLine]

/-- An empty member name falls back on the attribute. -/
def fieldOf (attributeName : String) (member : Option String) (isRequired : Bool) : RuleField :=
  ⟨attributeName, (member.bind Prelude.nonEmpty?).getD attributeName, isRequired⟩

/-- A bounded rule has to have a bound. -/
def bounded (kind : String) (make : RuleField → Bounds → Rule) (f : RuleField) (b : Bounds) :
    Except Fault Rule :=
  if b.isEmpty then
    .error (.badValue (.noBound kind f.attributeName))
  else .ok (make f b)

end Rule

namespace Member

/-- A constraint of a member: its own trait, else that of its target, unless the target is built in
or a structure. -/
def constraint? (shapes : List Shape) (m : Member) (id : String) : Option Value :=
  (m.traits.get? id).or <|
    let r := resolve shapes (some m.target)
    if r.isBuiltin || r.shape.type == .struct then none else r.shape.traits.get? id

def ruleField (m : Member) : RuleField :=
  Rule.fieldOf (Naming.fieldAttribute m.name) (some m.name) m.isRequired

def rules (shapes : List Shape) (m : Member) : List Rule :=
  let bounds := fun id => (m.constraint? shapes id).bind Bounds.ofTrait?
  ((bounds Prelude.lengthTrait).map (.length m.ruleField)).toList
    ++ ((bounds Prelude.rangeTrait).map (.range m.ruleField)).toList
    ++ (((m.constraint? shapes Prelude.patternTrait).bind Value.str?).map
        (.pattern m.ruleField)).toList

end Member

namespace Shape

/-- One rule for all required members, then those of each member in order. -/
def rules (shapes : List Shape) (s : Shape) : List Rule :=
  let required := s.requiredMembers.map fun m => (Naming.fieldAttribute m.name, m.name)
  (if required.isEmpty then [] else [.required required])
    ++ s.members.flatMap (·.rules shapes)

end Shape

end SmithyGen
