import SmithyGen.Proofs.Idl.Faults
import SmithyGen.Proofs.Idl.Requiring

namespace SmithyGen.Idl

section References

def Shape.references : Shape → List String
  | .simple _ => []
  | .service _ operations errors => operations ++ errors
  | .operation input output errors => input.toList ++ output.toList ++ errors
  | .struct ms | .union ms | .list ms | .map ms => ms.map (·.2.target)

theorem hash_mem_resolve (ns name : String) : '#' ∈ (resolve ns name).toList := by
  unfold resolve
  split_ifs with hhash
  · simpa using hhash
  · simp [Prelude.id]
  · simp

theorem hash_mem_target {ns : String} {body : List Char} {entry : String × Member}
    (h : entry ∈ members ns body) : '#' ∈ entry.2.target.toList := by
  obtain ⟨-, target, -, htarget⟩ := mem_members h
  rw [htarget]
  exact hash_mem_resolve ns target

variable {policy : RequiredPolicy} {ns : String} {body : List Char}

theorem hash_mem_target_of_aggregate {ms : Entries Member}
    (h : aggregateMembers policy ns body = .ok ms) {entry : String × Member} (hentry : entry ∈ ms) :
    '#' ∈ entry.2.target.toList := by
  cases policy with
  | exact =>
    obtain rfl := Except.ok.inj h
    exact hash_mem_target hentry
  | heuristic =>
    obtain rfl := Except.ok.inj h
    rw [requireAll_members] at hentry
    split_ifs at hentry
    · obtain ⟨written, hwritten, rfl⟩ := List.mem_map.mp hentry
      simp only [Member.require_target]
      exact hash_mem_target hwritten
    · exact hash_mem_target hentry
  | unset typeName => cases h

theorem hash_mem_references {kind : BlockKind} {s : Shape}
    (h : blockShape policy ns kind body = .ok s) {ref : String} (href : ref ∈ s.references) :
    '#' ∈ ref.toList := by
  have hnames : ∀ key, ref ∈ nameListIn key ns body → '#' ∈ ref.toList := by
    intro key hmem
    obtain ⟨name, -, rfl⟩ := List.mem_map.mp hmem
    exact hash_mem_resolve ns name
  have hshape : ∀ key, ref ∈ (shapeIn? key ns body).toList → '#' ∈ ref.toList := by
    intro key hmem
    obtain ⟨name, -, rfl⟩ := Option.map_eq_some_iff.mp (Option.mem_toList.mp hmem)
    exact hash_mem_resolve ns name
  have htargets : ∀ ms : Entries Member, (∀ entry ∈ ms, '#' ∈ entry.2.target.toList) →
      ref ∈ ms.map (·.2.target) → '#' ∈ ref.toList := by
    intro ms hms hmem
    obtain ⟨entry, hentry, rfl⟩ := List.mem_map.mp hmem
    exact hms entry hentry
  cases kind with
  | service =>
    obtain rfl := Except.ok.inj h
    exact (List.mem_append.mp href).elim (hnames _) (hnames _)
  | operation =>
    obtain rfl := Except.ok.inj h
    rcases List.mem_append.mp href with href | href
    · exact (List.mem_append.mp href).elim (hshape _) (hshape _)
    · exact hnames _ href
  | struct =>
    obtain ⟨ms, hms, rfl⟩ := Outcome.map_eq_ok.mp h
    exact htargets ms (fun _ => hash_mem_target_of_aggregate hms) href
  | union =>
    obtain ⟨ms, hms, rfl⟩ := Outcome.map_eq_ok.mp h
    exact htargets ms (fun _ => hash_mem_target_of_aggregate hms) href
  | list =>
    obtain rfl := Except.ok.inj h
    exact htargets _ (fun _ => hash_mem_target) href
  | map =>
    obtain rfl := Except.ok.inj h
    exact htargets _ (fun _ => hash_mem_target) href

theorem Declaration.hash_mem_references {d : Declaration} {x : Declared}
    (h : d.declared policy ns = .ok x) {ref : String} (href : ref ∈ x.shape.references) :
    '#' ∈ ref.toList := by
  obtain ⟨traits, written⟩ := d
  cases written with
  | simple kind name =>
    obtain rfl := Except.ok.inj h
    cases href
  | block kind name body =>
    obtain ⟨s, hs, rfl⟩ := Outcome.map_eq_ok.mp h
    exact Idl.hash_mem_references hs href

end References

section Services

theorem countP_taken_le (seen : Bool) (ds : List Declaration) :
    (taken seen ds).countP (·.isService) ≤ if seen then 0 else 1 := by
  induction ds generalizing seen with
  | nil => simp [taken]
  | cons d ds ih =>
    rw [taken]
    split_ifs with hpassed hseen hseen
    · simpa [hseen] using ih seen
    · simp [hseen] at hpassed
    · have hother : d.isService = false := by simpa [hseen] using hpassed
      simpa [hseen, hother] using ih (seen || d.isService)
    · cases hd : d.isService with
      | true => simpa [hseen, hd, List.countP_cons] using ih true
      | false => simpa [hseen, hd, List.countP_cons] using ih false

theorem countP_inForce_le (text : String) :
    (inForce text).countP (·.2.isService) ≤ 1 := by
  have hpairs := Entries.countP_insertAll_le (fun entry => entry.2.isService) []
    ((taken false (declarations text)).map fun d => (d.id (namespaceIn text), d))
  have htaken := countP_taken_le false (declarations text)
  rw [List.countP_map, List.countP_nil] at hpairs
  simp only [Function.comp_def, Bool.false_eq_true, if_false] at hpairs htaken
  rw [inForce, Entries.ofList_eq_insertAll]
  omega

theorem isServiceEntry_declared {policy : RequiredPolicy} {ns id : String} {d : Declaration}
    {x : Declared} (hx : d.declared policy ns = .ok x)
    (hkind : ∀ kind name, d.written = .simple kind name → (kind, kind) ∈ simpleKeywords) :
    Build.isServiceEntry (id, x.toValue) = d.isService := by
  obtain ⟨traits, written⟩ := d
  cases written with
  | simple kind name =>
    obtain rfl := Except.ok.inj hx
    have hne : ∀ entry ∈ simpleKeywords, (Value.str? (.str entry.1) == some "service") = false := by
      decide
    exact hne (kind, kind) (hkind kind name rfl)
  | block kind name body =>
    obtain ⟨s, hs, rfl⟩ := Outcome.map_eq_ok.mp hx
    cases kind with
    | struct =>
      obtain ⟨ms, -, rfl⟩ := Outcome.map_eq_ok.mp hs
      rfl
    | union =>
      obtain ⟨ms, -, rfl⟩ := Outcome.map_eq_ok.mp hs
      rfl
    | _ =>
      obtain rfl := Except.ok.inj hs
      rfl

end Services

section Documents

/-- A value that is an absolute id. -/
def IsAbsolute (v : Value) : Prop := ∃ s, v = .str s ∧ '#' ∈ s.toList

def memberTarget (es : Entries Value) (name : String) : Value :=
  let ms := (Value.field es "members").entries?.getD []
  Value.field ((Value.field ms name).entries?.getD []) "target"

/-- What is relied on in each shape of a document. Lists and maps show the target of one of their
members as their own. -/
structure ShapeContract (es : Entries Value) : Prop where
  members : ∃ ms, Build.entriesOf (Value.field es "members") = .ok ms
    ∧ ∀ name m, (name, m) ∈ ms →
      ∃ fields, m = .map fields ∧ IsAbsolute (Value.field fields "target")
  ends : ∀ key ∈ ["input", "output"],
    Value.field es key = .null ∨ IsAbsolute (Value.field es key)
  lists : ∀ key ∈ ["operations", "errors"],
    ∃ refs, Build.itemsOf (Value.field es key) = .ok refs ∧ ∀ ref ∈ refs, IsAbsolute ref
  elementOfList : Value.field es "type" = .str "list" →
    Value.field es "target" = memberTarget es "member"
  elementOfMap : Value.field es "type" = .str "map" →
    Value.field es "target" = memberTarget es "value"

/-- What is relied on in a document with a namespace and raw shapes. -/
structure Contract (ns : String) (raw : Entries Value) : Prop where
  ns_ne_empty : ns ≠ ""
  ids : ∀ id ∈ raw.keys, ∃ name, IsNameOf Text.isWord name ∧ id = ns ++ "#" ++ name
  single : raw.countP Build.isServiceEntry ≤ 1
  shapes : ∀ id v, (id, v) ∈ raw → ∃ es, v = .map es ∧ ShapeContract es

theorem memberTarget_eq (d : Declared) (name : String) :
    memberTarget d.entries name = elementTarget d.shape.members name := by
  have hfield : ∀ ms : Entries Member,
      Value.field ((Value.field (ms.map fun entry => (entry.1, entry.2.toValue)) name).entries?.getD
        []) "target" = elementTarget ms name := by
    intro ms
    have hget : Value.field (ms.map fun entry => (entry.1, entry.2.toValue)) name
        = ((ms.get? name).map Member.toValue).getD .null :=
      congrArg (·.getD .null) (Entries.get?_map Member.toValue name ms)
    rw [elementTarget, hget]
    cases ms.get? name <;> rfl
  obtain ⟨shape, traits⟩ := d
  cases shape with
  | struct ms => exact hfield ms
  | union ms => exact hfield ms
  | list ms => exact hfield ms
  | map ms => exact hfield ms
  | _ => rfl

theorem Shape.target_mem_references {s : Shape} {entry : String × Member} (h : entry ∈ s.members) :
    entry.2.target ∈ s.references := by
  cases s with
  | struct ms => exact List.mem_map_of_mem (f := fun entry => entry.2.target) h
  | union ms => exact List.mem_map_of_mem (f := fun entry => entry.2.target) h
  | list ms => exact List.mem_map_of_mem (f := fun entry => entry.2.target) h
  | map ms => exact List.mem_map_of_mem (f := fun entry => entry.2.target) h
  | _ => cases h

theorem isAbsolute_ofOption {o : Option String} (h : ∀ ref ∈ o.toList, '#' ∈ ref.toList) :
    Value.ofOption o = .null ∨ IsAbsolute (Value.ofOption o) := by
  cases o with
  | none => exact Or.inl rfl
  | some ref => exact Or.inr ⟨ref, rfl, h ref (by simp)⟩

theorem itemsOf_idList {ids : List String} (h : ∀ ref ∈ ids, '#' ∈ ref.toList) :
    ∃ refs, Build.itemsOf (idList ids) = .ok refs ∧ ∀ ref ∈ refs, IsAbsolute ref := by
  refine ⟨_, Build.itemsOf_list _, fun v hv => ?_⟩
  obtain ⟨ref, href, rfl⟩ := List.mem_map.mp hv
  exact ⟨ref, rfl, h ref href⟩

theorem shapeContract {d : Declared} (href : ∀ ref ∈ d.shape.references, '#' ∈ ref.toList)
    (hkind : ∀ kind, d.shape = .simple kind → (kind, kind) ∈ simpleKeywords) :
    ShapeContract d.entries := by
  have hnone : ∃ refs, Build.itemsOf .null = .ok refs ∧ ∀ ref ∈ refs, IsAbsolute ref :=
    ⟨[], rfl, by simp⟩
  constructor
  case members =>
    refine ⟨_, d.entriesOf_members, fun name v hv => ?_⟩
    obtain ⟨entry, hentry, heq⟩ := List.mem_map.mp hv
    obtain ⟨rfl, rfl⟩ := Prod.mk.inj heq
    exact ⟨_, rfl, entry.2.target, rfl, href _ (Shape.target_mem_references hentry)⟩
  case ends =>
    obtain ⟨shape, traits⟩ := d
    intro key hkey
    cases shape with
    | operation input output errors =>
      rcases List.mem_pair.mp hkey with rfl | rfl
      · exact isAbsolute_ofOption fun ref h => href ref (by simp_all [Shape.references])
      · exact isAbsolute_ofOption fun ref h => href ref (by simp_all [Shape.references])
    | _ => rcases List.mem_pair.mp hkey with rfl | rfl <;> exact Or.inl rfl
  case lists =>
    obtain ⟨shape, traits⟩ := d
    intro key hkey
    cases shape with
    | service version operations errors =>
      rcases List.mem_pair.mp hkey with rfl | rfl
      · exact itemsOf_idList fun ref h => href ref (List.mem_append_left _ h)
      · exact itemsOf_idList fun ref h => href ref (List.mem_append_right _ h)
    | operation input output errors =>
      rcases List.mem_pair.mp hkey with rfl | rfl
      · exact hnone
      · exact itemsOf_idList fun ref h => href ref (List.mem_append_right _ h)
    | _ => rcases List.mem_pair.mp hkey with rfl | rfl <;> exact hnone
  case elementOfList =>
    intro htype
    rw [memberTarget_eq]
    obtain ⟨shape, traits⟩ := d
    cases shape with
    | list ms => rfl
    | simple kind =>
      obtain rfl : kind = "list" := Value.str.inj htype
      exact absurd (hkind _ rfl) (by decide)
    | _ => exact absurd (Value.str.inj htype) (by decide)
  case elementOfMap =>
    intro htype
    rw [memberTarget_eq]
    obtain ⟨shape, traits⟩ := d
    cases shape with
    | map ms => rfl
    | simple kind =>
      obtain rfl : kind = "map" := Value.str.inj htype
      exact absurd (hkind _ rfl) (by decide)
    | _ => exact absurd (Value.str.inj htype) (by decide)

end Documents

section Stages

variable {policy : RequiredPolicy}

theorem namespaceIn_ne_empty (text : String) : namespaceIn text ≠ "" := by
  unfold namespaceIn
  cases hfirst : namespaceLine.first? (stripComments text.toList) with
  | none => decide
  | some ns =>
    obtain ⟨before, cs, rest, -, hmatch⟩ := Matcher.exists_match_of_firstFrom hfirst
    simp only [namespaceLine] at hmatch
    split_ifs at hmatch
    obtain ⟨after, -, hmatch⟩ := Option.bind_eq_some_iff.mp hmatch
    split_ifs at hmatch with hname
    obtain ⟨rfl, -⟩ := Prod.mk.inj (Option.some.inj hmatch)
    intro hempty
    refine hname (Bool.or_eq_true _ _ ▸ Or.inr ?_)
    rw [List.isEmpty_iff]
    simpa using hempty

theorem Declaration.written_of_simple {ns kind : String} {d : Declaration} {x : Declared}
    (hx : d.declared policy ns = .ok x) (hsimple : x.shape = .simple kind) :
    ∃ name, d.written = .simple kind name := by
  obtain ⟨traits, written⟩ := d
  cases written with
  | simple kind' name =>
    obtain rfl := Except.ok.inj hx
    obtain rfl := Shape.simple.inj hsimple
    exact ⟨name, rfl⟩
  | block kind' name body =>
    obtain ⟨s, hs, rfl⟩ := Outcome.map_eq_ok.mp hx
    cases kind' with
    | struct =>
      obtain ⟨ms, -, rfl⟩ := Outcome.map_eq_ok.mp hs
      cases hsimple
    | union =>
      obtain ⟨ms, -, rfl⟩ := Outcome.map_eq_ok.mp hs
      cases hsimple
    | _ =>
      obtain rfl := Except.ok.inj hs
      cases hsimple

/-- The document of a text keeps the contract. -/
theorem contract_of_read {text : String} {f : Declaration → Declared}
    (hf : ∀ d : Declaration, d.declared policy (namespaceIn text) = .ok (f d)) :
    Contract (namespaceIn text)
      (Ast.raw ⟨namespaceIn text, (inForce text).map fun entry => (entry.1, f entry.2)⟩) := by
  have hraw : Ast.raw ⟨namespaceIn text, (inForce text).map fun entry => (entry.1, f entry.2)⟩
      = (inForce text).map fun entry => (entry.1, (f entry.2).toValue) := by
    simp [Ast.raw]
  have hmem : ∀ entry ∈ inForce text, entry.2 ∈ declarations text
      ∧ entry.1 = entry.2.id (namespaceIn text) := fun entry h =>
    (mem_inForce h).imp_left mem_of_mem_taken
  rw [hraw]
  constructor
  case ns_ne_empty => exact namespaceIn_ne_empty text
  case ids =>
    intro id hid
    rw [Entries.keys, List.map_map] at hid
    obtain ⟨entry, hentry, rfl⟩ := List.mem_map.mp hid
    obtain ⟨hd, heq⟩ := hmem entry hentry
    exact ⟨entry.2.name, (mem_declarations hd).1, heq⟩
  case single =>
    -- The services of the document are those of the declarations, all but one of them passed over.
    have hcount : ((inForce text).map fun entry => (entry.1, (f entry.2).toValue)).countP
        Build.isServiceEntry = (inForce text).countP (·.2.isService) := by
      rw [List.countP_map]
      refine List.countP_congr fun entry hentry => ?_
      have hkind := (mem_declarations (hmem entry hentry).1).2
      rw [Function.comp_apply, isServiceEntry_declared (hf entry.2) hkind]
    rw [hcount]
    exact countP_inForce_le text
  case shapes =>
    intro id v hv
    obtain ⟨entry, hentry, heq⟩ := List.mem_map.mp hv
    obtain ⟨rfl, rfl⟩ := Prod.mk.inj heq
    refine ⟨(f entry.2).entries, rfl, shapeContract ?_ fun kind hsimple => ?_⟩
    · exact fun ref => (entry.2).hash_mem_references (hf entry.2)
    · obtain ⟨name, hwritten⟩ := Declaration.written_of_simple (hf entry.2) hsimple
      exact (mem_declarations (hmem entry hentry).1).2 kind name hwritten

theorem ofValue_toValue (a : Ast) (source : Option String) :
    (Interchange.ofValue a.toValue source).result
      = .ok ⟨a.raw, [("namespace", .str a.ns)], some (.str Prelude.version)⟩ := by
  have hcheck : Interchange.check a.toValue
      = .ok ⟨a.raw, [("namespace", .str a.ns)], some (.str Prelude.version)⟩ :=
    Interchange.check_union a.checkShapes_raw _ _
  rw [Interchange.ofValue, hcheck]
  rfl

/-- A fault of building a model that no text leads to: a missing namespace, and in a lenient build a
reference that leads nowhere. -/
def IsExcluded (references : Build.ReferencePolicy) : Fault → Prop
  | .noNamespace _ => True
  | .dangling .. => references = .lenient
  | _ => False

theorem build_not_excluded {a : Ast} (hns : a.ns ≠ "") (references : Build.ReferencePolicy) :
    (Model.build references a.toValue).FaultsIn fun e => ¬IsExcluded references e := by
  -- The faults come from references, from the namespace and from the `http` trait.
  refine Build.build_faultsIn ?_ (fun e he => ?_) ?_
  · intro d e he
    cases references with
    | lenient => cases he
    | strict =>
      obtain rfl := Except.error.inj he
      exact fun h => by cases h
    | unset =>
      obtain rfl := Except.error.inj he
      exact id
  · have hnamed : Build.namespaceOf [("namespace", .str a.ns)] (.map a.raw) = .ok a.ns := by
      have hne : Prelude.nonEmpty? a.ns = some a.ns := by
        unfold Prelude.nonEmpty?
        rw [if_neg (by simpa using hns)]
      simp [Build.namespaceOf, Value.field, Entries.get?, Value.str?, hne]
    rw [hnamed] at he
    cases he
  · intro id s hs op hop d hd input e he
    rcases Build.httpBinding_fails he with ⟨literal, rfl⟩ | hbreaks
    · exact fun h => h
    · cases e <;> first | exact fun h => h | cases hbreaks

/-- Whatever a text says, its document keeps the contract of the later stages: it is accepted with
the same shapes and metadata, and a model is built from it without the faults of a missing namespace
or, where references may lead nowhere, of a dangling one. -/
theorem read_contract (hpolicy : ∀ typeName, policy ≠ .unset typeName) (file text : String) :
    ∃ a, (read policy file text).result = .ok a ∧ Contract a.ns a.raw
      ∧ (∀ source, (Interchange.ofValue a.toValue source).result
        = .ok ⟨a.raw, [("namespace", .str a.ns)], some (.str Prelude.version)⟩)
      ∧ ∀ references e, (Model.build references a.toValue).result = .error e →
        (∀ cause, e ≠ .noNamespace cause)
          ∧ (references = .lenient → ∀ ref referrer, e ≠ .dangling ref referrer) := by
  choose f hf using declared_isOk hpolicy (namespaceIn text)
  refine ⟨_, congrArg Logged.result (read_eq hf file), contract_of_read hf, ofValue_toValue _, ?_⟩
  intro references e he
  have hexcluded := build_not_excluded (namespaceIn_ne_empty text) references e he
  refine ⟨?_, ?_⟩
  · rintro cause rfl
    exact hexcluded trivial
  · rintro hlenient ref referrer rfl
    exact hexcluded hlenient

def crookedText : String :=
  "service Blog \x7b operations: [Get, Get] \x7d\nservice Shop \x7b \x7d\n"
    ++ "list Tags \x7b key: Tag \x7d\nstructure Post \x7b title: String\n"

theorem read_contract_crookedText :
    (∀ typeName, RequiredPolicy.heuristic ≠ .unset typeName)
      ∧ ∃ a, (read .heuristic "<string>" crookedText).result = .ok a ∧ Contract a.ns a.raw
        ∧ a.raw.keys = ["unknown#Blog", "unknown#Tags"] := by
  have hpolicy : ∀ typeName, RequiredPolicy.heuristic ≠ .unset typeName := by simp
  have hkeys : (read .heuristic "<string>" crookedText).result.toOption.map (·.raw.keys)
      = some ["unknown#Blog", "unknown#Tags"] := by decide +kernel
  obtain ⟨a, ha, hcontract, -, -⟩ := read_contract hpolicy "<string>" crookedText
  rw [ha] at hkeys
  exact ⟨hpolicy, a, ha, hcontract, Option.some.inj hkeys⟩

end Stages

end SmithyGen.Idl
