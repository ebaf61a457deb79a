import SmithyGen.Emit.TypeExpr
import SmithyGen.Emit.Artifact
import SmithyGen.Rule

namespace SmithyGen.Emit.Types

/-- What the generator needs to know of a member. -/
structure FieldPlan where
  member : Member
  type : TypeExpr
  isBinary : Bool

def FieldPlan.ofMember (shapes : List Shape) (m : Member) : FieldPlan :=
  ⟨m, typeExpr shapes m.target, (resolve shapes (some m.target)).kind == .binary⟩

def blobCodec : String := "encoder=_encode_blob, decoder=_decode_blob"

/-- Settings of a field: its wire name where the attribute differs, and the codec of binary data. -/
def FieldPlan.overrides (p : FieldPlan) : List String :=
  (if Naming.fieldAttribute p.member.name == p.member.name then []
    else ["field_name=" ++ Text.quoted p.member.name])
    ++ (if p.isBinary then [blobCodec] else [])

def FieldPlan.metadata? (p : FieldPlan) : Option String :=
  if p.overrides.isEmpty then none else some ("config(" ++ ", ".intercalate p.overrides ++ ")")

def FieldPlan.decl (p : FieldPlan) : FieldDecl :=
  let name := Naming.fieldAttribute p.member.name
  if p.member.isRequired then
    { name, type := p.type.text,
      default? := p.metadata?.map fun m => "field(metadata=" ++ m ++ ")",
      comment := p.member.documentation }
  else
    { name, type := p.type.text ++ " | None",
      default? := some (p.metadata?.elim "None" fun m => "field(default=None, metadata=" ++ m ++ ")"),
      comment := p.member.documentation }

def blobFunctions : List FunctionDecl :=
  [{ name := "_encode_blob"
     params := [{ name := "value", type := some "bytes | None" }]
     returns := some "str | None"
     body := ["return None if value is None else base64.b64encode(value).decode(\"ascii\")"] },
   { name := "_decode_blob"
     params := [{ name := "value", type := some "str | None" }]
     returns := some "bytes | None"
     body := ["return None if value is None else base64.b64decode(value)"] }]

def isPattern : Rule → Bool
  | .pattern .. => true
  | _ => false

def baseImports (plans : List FieldPlan) (rules : List Rule) : Imports :=
  let i : Imports := {}
  let i := i.add "__future__" ["annotations"]
  let i := i.add "dataclasses" ["dataclass"]
  let i := i.add "dataclasses_json" ["dataclass_json"]
  let i := if plans.any (·.metadata?.isSome) then
    (i.add "dataclasses" ["field"]).add "dataclasses_json" ["config"] else i
  let i := if rules.any isPattern then i.add "re" [] else i
  if plans.any (·.isBinary) then i.add "base64" [] else i

def textsOf (v : Value) : List String := (v.items?.getD []).filterMap Value.str?

def validations (rules : List Rule) : Except Fault (List (List String)) :=
  rules.mapM fun r => (r.code .sealed Rule.templates).map textsOf

/-- The module of a structure. -/
def document (shapes : List Shape) (o : Options) (s : Shape) : Except Fault Document := do
  let plans := s.members.map (FieldPlan.ofMember shapes)
  let rules := s.rules shapes
  let bases := plans.map (·.type.base)
  let checks ← validations rules
  let required := plans.filter (·.member.isRequired)
  let optional := plans.filter (!·.member.isRequired)
  return { o.document (o.moduleName "types" s.name) .types
      ("Data type for the " ++ s.id ++ " structure.") with
    imports := bases.foldl (fun i b => b.addImports i) (baseImports plans rules)
    lateImports := bases.foldl (fun i b => b.addLateImports s.id i) {}
    functions := if plans.any (·.isBinary) then blobFunctions else []
    declarations := [{
      name := s.name
      decorators := ["dataclass_json", "dataclass"]
      docstring := s.documentation
      fields := (required ++ optional).map (·.decl)
      validations := some checks }] }

def artifact (shapes : List Shape) (o : Options) (s : Shape) : Except Fault Artifact := do
  o.render (← document shapes o s)

def artifacts (m : Model) (o : Options) : Except Fault (List Artifact) :=
  m.structures.mapM (artifact m.shapes o)

end SmithyGen.Emit.Types
