import SmithyGen.Proofs.FieldDefaults
import SmithyGen.Proofs.ImportClosure
import SmithyGen.Proofs.SearchLines

namespace SmithyGen

open Code

def Imports.named (i : Imports) : List (String × String) :=
  i.names.flatMap fun request => request.2.map fun name => (request.1, name)

namespace Document

def fields (d : Document) : List FieldDecl := d.declarations.flatMap (·.fields)

def defaults (d : Document) : List String := d.fields.filterMap (·.default?)

def checkLines (d : Document) : List String :=
  d.declarations.flatMap fun t => (t.validations.getD []).flatten

end Document

namespace Emit

namespace Types

/-- The names that the module of a structure imports: those of every module, those that make a
field with settings, and those of scalar bases. -/
theorem mem_named_iff {shapes : List Shape} {s : Shape} {entry : String × String} :
    entry ∈ (headImports shapes s).named
      ↔ entry ∈ [("__future__", "annotations"), ("dataclasses", "dataclass"),
          ("dataclasses_json", "dataclass_json")]
        ∨ ((plans shapes s).any (·.metadata?.isSome) = true
          ∧ entry ∈ [("dataclasses", "field"), ("dataclasses_json", "config")])
        ∨ (HasBase shapes s (.scalar .timestamp) ∧ entry = ("datetime", "datetime"))
        ∨ (HasBase shapes s (.scalar .unknown) ∧ entry = ("typing", "Any")) := by
  have hbase : ∀ b : Base, b.names.flatMap (fun r => r.2.map fun name => (r.1, name))
      = if b = .scalar .timestamp then [("datetime", "datetime")]
        else if b = .scalar .unknown then [("typing", "Any")] else [] := by
    intro b
    unfold Base.names
    split_ifs <;> rfl
  rw [headImports, baseImports_eq, Imports.named]
  dsimp only
  rw [List.flatMap_append, List.flatMap_append, List.flatMap_assoc, List.mem_append,
    List.mem_append, or_assoc]
  refine or_congr Iff.rfl (or_congr ?_ ?_)
  · split_ifs with h
    · simp [h]
    · simp [h]
  · simp only [hbase, List.mem_flatMap, HasBase]
    constructor
    · rintro ⟨x, hx, hentry⟩
      split_ifs at hentry with ht hu
      · exact Or.inl ⟨⟨x, hx, ht⟩, List.mem_singleton.mp hentry⟩
      · exact Or.inr ⟨⟨x, hx, hu⟩, List.mem_singleton.mp hentry⟩
      · cases hentry
    · rintro (⟨⟨x, hx, hb⟩, rfl⟩ | ⟨⟨x, hx, hb⟩, rfl⟩)
      · exact ⟨x, hx, by simp [hb]⟩
      · exact ⟨x, hx, by simp [hb]⟩

theorem mem_modules_iff {shapes : List Shape} {s : Shape} {module : String} :
    module ∈ (headImports shapes s).modules
      ↔ ((s.rules shapes).any isPattern = true ∧ module = "re")
        ∨ ((plans shapes s).any (·.isBinary) = true ∧ module = "base64") := by
  rw [headImports, baseImports_eq, List.mem_append]
  refine or_congr ?_ ?_
  · split_ifs with h <;> simp [h]
  · split_ifs with h <;> simp [h]

end Types

theorem scalar_typeFrom {shapes : List Shape} {left : Nat} {target : Option String}
    {kind : TargetKind} (h : (typeFrom shapes left target).base = .scalar kind) :
    kind ∉ [.list, .map, .reference] := by
  induction left generalizing target with
  | zero =>
    obtain rfl := Base.scalar.inj h
    decide
  | succ left ih =>
    simp only [typeFrom] at h
    split at h
    · cases h
    · exact ih h
    · exact ih h
    · next hreference hlist hmap =>
      obtain rfl := Base.scalar.inj h
      simpa using ⟨hlist, hmap, hreference⟩

namespace Types

theorem hasBase_scalarName_iff (shapes : List Shape) (s : Shape) {kind : TargetKind}
    (hkind : kind = .timestamp ∨ kind = .unknown) :
    (∃ k, HasBase shapes s (.scalar k) ∧ scalarName k = scalarName kind)
      ↔ HasBase shapes s (.scalar kind) := by
  constructor
  · rintro ⟨k, ⟨x, hx, hk⟩, hname⟩
    have hscalar := scalar_typeFrom hk
    obtain rfl : k = kind := by
      rcases hkind with rfl | rfl <;> cases k <;> first | rfl | simp [scalarName] at hname hscalar
    exact ⟨x, hx, hk⟩
  · intro h
    exact ⟨kind, h, rfl⟩

/-- What a module of a structure imports, and what its fields and its checks name. -/
structure ImportsItsUses (m : Model) (s : Shape) (d : Document) : Prop where
  fields : (d.fields.map fun f => (f.name, f.type)).Perm (s.members.map fun x =>
    (Naming.fieldAttribute x.name,
      (typeExpr m.shapes x.target).text ++ if x.isRequired then "" else " | None"))
  field : ("dataclasses", "field") ∈ d.imports.named ↔ ∃ t ∈ d.defaults, Calls "field" t
  config : ("dataclasses_json", "config") ∈ d.imports.named ↔ ∃ t ∈ d.defaults, Calls "config" t
  search : "re" ∈ d.imports.modules → ∃ line ∈ d.checkLines, Calls "re.search" line
  codec : ∀ name ∈ ["_encode_blob", "_decode_blob"],
    ("base64" ∈ d.imports.modules ↔ ∃ t ∈ d.defaults, Names name t)
      ∧ (name ∈ d.functions.map (·.name) ↔ ∃ t ∈ d.defaults, Names name t)
  scalar : ∀ entry ∈ [("datetime", "datetime"), ("typing", "Any")],
    entry ∈ d.imports.named
      ↔ ∃ kind, HasBase m.shapes s (.scalar kind) ∧ scalarName kind = entry.2
  late : d.lateImports.modules = [] ∧ d.lateImports.names = []
    ∧ ∀ request, request ∈ d.lateImports.relative
      ↔ ∃ x ∈ m.structures, x.id ≠ s.id ∧ HasBase m.shapes s (.reference x.id x.name)
        ∧ request = ("." ++ Naming.snake x.name, [x.name])
  only : d.imports.modules ⊆ ["re", "base64"] ∧ d.imports.relative = []
    ∧ d.imports.named ⊆ [("__future__", "annotations"), ("dataclasses", "dataclass"),
      ("dataclasses_json", "dataclass_json"), ("dataclasses", "field"),
      ("dataclasses_json", "config"), ("datetime", "datetime"), ("typing", "Any")]

theorem fields_of_declarations {shapes : List Shape} {s : Shape} {d : Document}
    {checks : List (List String)} (h : d.declarations = [classOf shapes s checks]) :
    d.fields = (fieldMembers s).map fun m => (FieldPlan.ofMember shapes m).decl := by
  simp [Document.fields, h, classOf]

theorem checkLines_of_declarations {shapes : List Shape} {s : Shape} {d : Document}
    {checks : List (List String)} (h : d.declarations = [classOf shapes s checks]) :
    d.checkLines = checks.flatten := by
  simp [Document.checkLines, h, classOf]

theorem exists_default_iff {shapes : List Shape} {s : Shape} {d : Document}
    (hfields : d.fields = (fieldMembers s).map (fun m => (FieldPlan.ofMember shapes m).decl))
    {P : String → Prop} {q : FieldPlan → Bool}
    (hP : ∀ p : FieldPlan, (∃ t ∈ p.decl.default?, P t) ↔ q p = true) :
    (∃ t ∈ d.defaults, P t) ↔ (plans shapes s).any q = true := by
  have hmem : ∀ x, x ∈ fieldMembers s ↔ x ∈ s.members := fun x => (fieldMembers_perm s).mem_iff
  simp only [Document.defaults, plans, hfields, List.mem_filterMap, List.any_eq_true, List.mem_map,
    ← hP]
  constructor
  · rintro ⟨t, ⟨_, ⟨x, hx, rfl⟩, ht⟩, hPt⟩
    exact ⟨_, ⟨x, (hmem x).mp hx, rfl⟩, t, ht, hPt⟩
  · rintro ⟨_, ⟨x, hx, rfl⟩, t, ht, hPt⟩
    exact ⟨t, ⟨_, ⟨x, (hmem x).mpr hx, rfl⟩, ht⟩, hPt⟩

/-- The module of a structure imports what it uses. Where no text among the bounds of its members
brings a call of its own, it searches for patterns only where it imports what it needs for that. -/
theorem document_imports (m : Model) (o : Options) (s : Shape) :
    ∃ d, document m.shapes o s = .ok d ∧ ImportsItsUses m s d
      ∧ ((∀ x ∈ s.members, x.HasPlainBounds m.shapes) →
        (∃ line ∈ d.checkLines, Calls "re.search" line) → "re" ∈ d.imports.modules) := by
  obtain ⟨d, hd⟩ := document_isOk m.shapes o s
  obtain ⟨checks, hchecks, -, hclass, hfunctions, himports, hlate⟩ := document_cases hd
  have hfields := fields_of_declarations hclass
  have hlines := checkLines_of_declarations hclass
  have hsettings {name} (hname : name ∈ ["field", "config"]) :=
    exists_default_iff hfields fun p => p.calls_iff hname
  have hcodec {name} (hname : name ∈ ["_encode_blob", "_decode_blob"]) :=
    exists_default_iff hfields fun p => p.names_codec_iff hname
  refine ⟨d, hd, ⟨?fields, ?field, ?config, ?search, ?codec, ?scalar, ?late, ?only⟩, ?bounds⟩
  case fields =>
    rw [hfields, List.map_map]
    simp only [Function.comp_def, name_decl, type_decl, FieldPlan.ofMember]
    exact (fieldMembers_perm s).map _
  case field =>
    rw [hsettings (by simp), himports, mem_named_iff]
    simp
  case config =>
    rw [hsettings (by simp), himports, mem_named_iff]
    simp
  case search =>
    intro hre
    have hpattern : (s.rules m.shapes).any isPattern = true := by
      simpa [himports, mem_modules_iff] using hre
    rw [hlines]
    exact Shape.calls_search_of_isPattern hchecks hpattern
  case codec =>
    intro name hname
    rw [hcodec hname, himports, mem_modules_iff, hfunctions]
    refine ⟨by simp, ?_⟩
    split_ifs with hbinary
    · simpa [hbinary, blobFunctions] using hname
    · simpa using hbinary
  case scalar =>
    intro entry hentry
    have htimestamp := hasBase_scalarName_iff m.shapes s (Or.inl rfl)
    have hunknown := hasBase_scalarName_iff m.shapes s (Or.inr rfl)
    rw [himports, mem_named_iff]
    rcases List.mem_pair.mp hentry with rfl | rfl
    · simpa [scalarName] using htimestamp.symm
    · simpa [scalarName] using hunknown.symm
  case late =>
    rw [hlate]
    exact ⟨rfl, rfl, fun request => mem_siblingImports_iff⟩
  case only =>
    rw [himports]
    refine ⟨fun module h => ?_, by rw [headImports, baseImports_eq], fun entry h => ?_⟩
    · rcases mem_modules_iff.mp h with ⟨-, rfl⟩ | ⟨-, rfl⟩ <;> simp
    · simp only [mem_named_iff, List.mem_cons, List.not_mem_nil, or_false] at h ⊢
      tauto
  case bounds =>
    rintro hbounds ⟨line, hline, hcalls⟩
    rw [hlines] at hline
    rw [himports, mem_modules_iff]
    exact Or.inl ⟨Shape.isPattern_of_calls_search hchecks hbounds hline hcalls, rfl⟩

def messageShape : Shape :=
  { id := "blog#Message", name := "Message", type := .struct
    members := [
      { name := "topic", target := "blog#Topic", traits := [(Prelude.requiredTrait, .map [])] },
      { name := "sentAt", target := "smithy.api#Timestamp" },
      { name := "photos", target := "blog#Photos" },
      { name := "sound", target := "smithy.api#Blob" },
      { name := "author", target := "blog#Author" },
      { name := "answered", target := "blog#Message" }] }

def messageModel : Model :=
  ⟨"blog", [messageShape, { id := "blog#Author", name := "Author", type := .struct },
    { id := "blog#Photos", name := "Photos", type := .list, target := some "smithy.api#Blob" },
    { id := "blog#Topic", name := "Topic", type := .string,
      traits := [(Prelude.lengthTrait, .map [("min", .int 1), ("max", .str "80")]),
        (Prelude.patternTrait, .str "^[a-z]+$")] }], none, []⟩

theorem hasPlainBounds_messageShape :
    ∀ x ∈ messageShape.members, x.HasPlainBounds messageModel.shapes := by
  intro x hx id hid es h
  rw [← Member.constraint?_eq_some_iff] at h
  have hlength : es = [("min", .int 1), ("max", .str "80")] := by
    simp only [messageShape, List.mem_cons, List.not_mem_nil, or_false] at hx hid
    rcases hx with rfl | rfl | rfl | rfl | rfl | rfl <;> rcases hid with rfl | rfl <;> cases h
    rfl
  rw [hlength]
  rintro t (ht | ht)
  · cases ht
  · obtain rfl : "80" = t := Value.str.inj ht
    simp [isQuote]

theorem document_imports_message :
    ∃ d, document messageModel.shapes ⟨"app", .str ".", .null, true⟩ messageShape = .ok d
      ∧ ImportsItsUses messageModel messageShape d
      ∧ (∃ line ∈ d.checkLines, Calls "re.search" line) ∧ "re" ∈ d.imports.modules
      ∧ d.lateImports.relative = [(".author", ["Author"])] := by
  obtain ⟨d, hd, huses, hbounds⟩ :=
    document_imports messageModel ⟨"app", .str ".", .null, true⟩ messageShape
  obtain ⟨checks, hchecks, -, hclass, -, -, hlate⟩ := document_cases hd
  have hline : ∃ line ∈ d.checkLines, Calls "re.search" line := by
    rw [checkLines_of_declarations hclass]
    exact Shape.calls_search_of_isPattern hchecks (by rfl)
  refine ⟨d, hd, huses, hline, hbounds hasPlainBounds_messageShape hline, ?_⟩
  rw [hlate]
  rfl

/-- A cart whose limit has a text for its lower bound. -/
def limitDocument : Value :=
  .map [("shapes", .map [
    ("shop#Cart", .map [("type", .str "structure"), ("members", .map [
      ("limit", .map [("target", .str "smithy.api#Integer"), ("traits", .map [
        ("smithy.api#range", .map [("min", .str "re.search('a', 'b')")])])])])])])]

def limitRule : Rule := .range ⟨"limit", "limit", false⟩ ⟨.str "re.search('a', 'b')", .null⟩

theorem build_limitDocument :
    ∃ m s, (Model.build .strict limitDocument).result = .ok m ∧ m.structures = [s]
      ∧ s.rules m.shapes = [limitRule] :=
  ⟨_, _, rfl, rfl, rfl⟩

theorem calls_limitRule {lines : List String} (h : limitRule.lines = .ok lines) :
    ∃ line ∈ lines, Calls "re.search" line := by
  obtain ⟨message, hcode⟩ := Rule.lines_of_condition (r := limitRule) rfl (Rule.text_range _ _)
  obtain rfl := Except.ok.inj (h.symm.trans hcode)
  refine ⟨_, List.mem_cons_self, "if self.limit is not None and self.limit < ".toList,
    "'', ''):".toList, ?_, ?_⟩
  · rw [String.toList_ofList]
    rfl
  · intro c hc
    obtain rfl : ' ' = c := Option.some.inj hc
    decide

/-- The text is part of the check as it is, and the search in it lacks its import. -/
theorem document_imports_limit :
    ∃ m s d, (Model.build .strict limitDocument).result = .ok m ∧ m.structures = [s]
      ∧ document m.shapes ⟨"app", .str ".", .null, true⟩ s = .ok d
      ∧ (∃ line ∈ d.checkLines, Calls "re.search" line) ∧ "re" ∉ d.imports.modules := by
  obtain ⟨m, s, hm, hs, hrules⟩ := build_limitDocument
  obtain ⟨d, hd⟩ := document_isOk m.shapes ⟨"app", .str ".", .null, true⟩ s
  obtain ⟨checks, hchecks, -, hclass, -, himports, -⟩ := document_cases hd
  refine ⟨m, s, d, hm, hs, hd, ?_, ?_⟩
  · rw [hrules] at hchecks
    obtain ⟨lines, hmem, hcode⟩ := Outcome.exists_image_of_mapM_eq_ok hchecks List.mem_cons_self
    obtain ⟨line, hline, hcalls⟩ := calls_limitRule hcode
    refine ⟨line, ?_, hcalls⟩
    rw [checkLines_of_declarations hclass]
    exact List.mem_flatten_of_mem hmem hline
  · rw [himports, mem_modules_iff, hrules]
    simp [isPattern, limitRule]

end Types

end Emit

end SmithyGen
