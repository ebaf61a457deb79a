import SmithyGen.Proofs.RuleLines
import SmithyGen.Proofs.TypeChain

namespace SmithyGen.Emit

theorem foldl_addImports (bases : List Base) (i : Imports) :
    bases.foldl (fun i b => b.addImports i) i
      = { i with names := i.names ++ bases.flatMap Base.names } := by
  induction bases generalizing i with
  | nil => simp
  | cons b bases ih => rw [List.foldl_cons, ih, Base.addImports_eq]; simp

theorem foldl_addLateImports (current : String) (bases : List Base) (i : Imports) :
    bases.foldl (fun i b => b.addLateImports current i) i
      = { i with relative := i.relative ++ bases.flatMap (Base.siblings current) } := by
  induction bases generalizing i with
  | nil => simp
  | cons b bases ih => rw [List.foldl_cons, ih, Base.addLateImports_eq]; simp

namespace Types

theorem name_decl (p : FieldPlan) : p.decl.name = Naming.fieldAttribute p.member.name := by
  unfold FieldPlan.decl
  cases p.member.isRequired <;> simp only [Bool.false_eq_true, if_true, if_false]

theorem type_decl (p : FieldPlan) :
    p.decl.type = p.type.text ++ if p.member.isRequired then "" else " | None" := by
  unfold FieldPlan.decl
  cases p.member.isRequired <;> simp

/-- The fields of a class in the order in which they are declared: those of required members first.
-/
def fieldMembers (s : Shape) : List Member :=
  s.members.filter (·.isRequired) ++ s.members.filter (!·.isRequired)

theorem fieldMembers_perm (s : Shape) : (fieldMembers s).Perm s.members :=
  List.filter_append_perm _ _

def plans (shapes : List Shape) (s : Shape) : List FieldPlan :=
  s.members.map (FieldPlan.ofMember shapes)

def classOf (shapes : List Shape) (s : Shape) (checks : List (List String)) : TypeDecl :=
  { name := s.name
    decorators := ["dataclass_json", "dataclass"]
    docstring := s.documentation
    fields := (fieldMembers s).map fun m => (FieldPlan.ofMember shapes m).decl
    validations := some checks }

def headImports (shapes : List Shape) (s : Shape) : Imports :=
  let i := baseImports (plans shapes s) (s.rules shapes)
  { i with names := i.names ++ s.members.flatMap fun m => (typeExpr shapes m.target).base.names }

/-- The structures beside it that the types of its members name. -/
def siblingImports (shapes : List Shape) (s : Shape) : Imports :=
  { relative := s.members.flatMap fun m => (typeExpr shapes m.target).base.siblings s.id }

theorem baseImports_eq (plans : List FieldPlan) (rules : List Rule) :
    baseImports plans rules =
      { modules := (if rules.any isPattern then ["re"] else [])
          ++ (if plans.any (·.isBinary) then ["base64"] else [])
        names := [("__future__", ["annotations"]), ("dataclasses", ["dataclass"]),
            ("dataclasses_json", ["dataclass_json"])]
          ++ (if plans.any (·.metadata?.isSome) then
            [("dataclasses", ["field"]), ("dataclasses_json", ["config"])] else []) } := by
  unfold baseImports
  dsimp only
  split_ifs <;> rfl

theorem document_isOk (shapes : List Shape) (o : Options) (s : Shape) :
    ∃ d, document shapes o s = .ok d := by
  obtain ⟨checks, hchecks⟩ := validations_isOk (s.rules shapes)
  exact ⟨_, Outcome.bind_eq_ok.mpr ⟨checks, hchecks, rfl⟩⟩

/-- All there is in the module of a structure. -/
theorem document_cases {shapes : List Shape} {o : Options} {s : Shape} {d : Document}
    (h : document shapes o s = .ok d) :
    ∃ checks, validations (s.rules shapes) = .ok checks
      ∧ d.module = o.moduleName "types" s.name ∧ d.declarations = [classOf shapes s checks]
      ∧ d.functions = (if (plans shapes s).any (·.isBinary) then blobFunctions else [])
      ∧ d.imports = headImports shapes s ∧ d.lateImports = siblingImports shapes s := by
  obtain ⟨checks, hchecks, h⟩ := Outcome.bind_eq_ok.mp h
  obtain rfl := Except.ok.inj h
  refine ⟨checks, hchecks, rfl, ?_, rfl, ?_, ?_⟩
  · simp only [classOf, fieldMembers, List.map_append, List.filter_map, List.map_map]
    rfl
  · dsimp only
    rw [foldl_addImports, List.map_map, List.flatMap_map]
    rfl
  · dsimp only
    rw [foldl_addLateImports, List.map_map, List.flatMap_map]
    rfl

end Types

end SmithyGen.Emit
