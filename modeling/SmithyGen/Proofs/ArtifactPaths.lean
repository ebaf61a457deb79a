import Mathlib.Data.List.Nodup
import Mathlib.Data.String.Basic
import SmithyGen.Generate
import SmithyGen.Proofs.ImportLines
import SmithyGen.Proofs.Naming
import SmithyGen.Proofs.Outcome
import SmithyGen.Proofs.Text
import SmithyGen.Proofs.TypeModule

namespace SmithyGen

namespace FilePath

/-- A text that is one component of a path. -/
structure IsComponent (s : String) : Prop where
  ne_empty : s ≠ ""
  ne_dot : s ≠ "."
  no_slash : '/' ∉ s.toList

theorem ofString_of_isComponent {s : String} (h : IsComponent s) : ofString s = ⟨"", [s]⟩ := by
  have hsplit : Text.splitWhere (· == '/') s.toList = [s.toList] :=
    Text.splitWhere_of_none fun c hc => by
      simpa using fun he : c = '/' => h.no_slash (he ▸ hc)
  have hroot : rootOf s.toList = "" := by
    have : s.toList.takeWhile (· == '/') = [] := by
      cases hs : s.toList with
      | nil => rfl
      | cons c cs =>
        have hc : c ≠ '/' := fun he => h.no_slash (by rw [hs, he]; simp)
        simp [hc]
    simp [rootOf, this]
  have hne : s.toList ≠ [] := by
    intro he
    exact h.ne_empty (String.toList_inj.mp he)
  have hdot : s.toList ≠ ['.'] := by
    intro he
    exact h.ne_dot (String.toList_inj.mp he)
  simp [ofString, hsplit, hroot, hne, hdot]

theorem foldl_join (p : FilePath) (files : List String) (h : ∀ f ∈ files, IsComponent f) :
    files.foldl (fun p f => p.join (ofString f)) p = ⟨p.root, p.parts ++ files⟩ := by
  induction files generalizing p with
  | nil => simp
  | cons f files ih =>
    rw [List.foldl_cons, ofString_of_isComponent (h f (by simp)),
      ih _ fun g hg => h g (List.mem_cons_of_mem _ hg)]
    simp [join]

theorem ofModule?_eq {module dir : String} {parts : List String} {last : String}
    (hparts : ((Text.splitWhere (· == '.') module.toList).filter (· != [])).map String.ofList
      = parts ++ [last])
    (h : ∀ f ∈ parts, IsComponent f) (hlast : IsComponent (last ++ ".py")) :
    ofModule? module dir
      = some ⟨(ofString dir).root, (ofString dir).parts ++ (parts ++ [last ++ ".py"])⟩ := by
  have hall : ∀ f ∈ parts ++ [last ++ ".py"], IsComponent f := by
    intro f hf
    rcases List.mem_append.mp hf with hf | hf
    · exact h f hf
    · rw [List.mem_singleton.mp hf]
      exact hlast
  simp only [ofModule?, hparts, List.getLast?_concat, List.dropLast_concat, Option.map_some,
    foldl_join _ _ hall]

end FilePath

namespace Text

theorem isIdentContinue_of_isIdentifier {cs : List Char} (h : isIdentifier cs) {c : Char}
    (hc : c ∈ cs) : isIdentStart c ∨ isIdentContinue c := by
  cases cs with
  | nil => simp [isIdentifier] at h
  | cons d ds =>
    simp only [isIdentifier, Bool.and_eq_true, List.all_eq_true] at h
    rcases List.mem_cons.mp hc with rfl | hc
    · exact Or.inl h.1
    · exact Or.inr (h.2 c hc)

theorem isComponent_of_isIdentifier {cs : List Char} (h : isIdentifier cs) :
    FilePath.IsComponent (String.ofList cs) where
  ne_empty := by
    intro he
    rw [String.ofList_eq] at he
    subst he
    simp [isIdentifier] at h
  ne_dot := by
    intro he
    rw [String.ofList_eq] at he
    subst he
    exact absurd h (by decide)
  no_slash := by
    intro hc
    rw [String.toList_ofList] at hc
    have := isIdentContinue_of_isIdentifier h hc
    exact absurd this (by decide)

end Text

namespace Emit

open FilePath

/-- All characters may stand in snake case. -/
def IsSnake (s : String) : Prop := s.toList.all Naming.isSnakeChar = true

instance (s : String) : Decidable (IsSnake s) := inferInstanceAs (Decidable (_ = true))

theorem isSnake_snake (s : String) : IsSnake (Naming.snake s) :=
  List.all_eq_true.mpr fun _ => Naming.isSnakeChar_of_mem_snake

theorem IsSnake.append {s t : String} (hs : IsSnake s) (ht : IsSnake t) : IsSnake (s ++ t) := by
  unfold IsSnake at *
  rw [String.toList_append, List.all_append, hs, ht]
  rfl

theorem IsSnake.not_mem {s : String} (h : IsSnake s) {c : Char}
    (hc : Naming.isSnakeChar c = false) : c ∉ s.toList := by
  intro hm
  simpa [hc] using List.all_eq_true.mp h c hm

theorem IsSnake.isComponent {s : String} (h : IsSnake s) (hne : s ≠ "") : IsComponent s where
  ne_empty := hne
  ne_dot := by
    rintro rfl
    exact absurd h (by decide)
  no_slash := h.not_mem (by decide)

theorem IsSnake.isComponent_py {s : String} (h : IsSnake s) : IsComponent (s ++ ".py") where
  ne_empty := by
    intro he
    have hl := congrArg (fun t => t.toList.length) he
    simp [String.toList_append] at hl
  ne_dot := by
    intro he
    have hl := congrArg (fun t => t.toList.length) he
    simp [String.toList_append] at hl
  no_slash := by
    rw [String.toList_append, List.mem_append]
    rintro (hm | hm)
    · exact h.not_mem (by decide) hm
    · exact absurd hm (by decide)

def Options.baseParts (o : Options) : List String :=
  (Text.splitWhere (· == '.') o.baseModule.toList).map String.ofList

/-- The components of a module under the base module. A module without a name is the file of its
package. -/
def moduleParts (package file : String) : List String :=
  if file = "" then [package ++ ".py"] else [package, file ++ ".py"]

theorem Options.baseParts_ne_nil (o : Options) : o.baseParts ≠ [] := by
  simpa [Options.baseParts] using Text.splitWhere_ne_nil _ _

theorem Options.isComponent_of_mem_baseParts {o : Options} (hb : isModuleName o.baseModule)
    {part : String} (h : part ∈ o.baseParts) : IsComponent part := by
  obtain ⟨cs, hcs, rfl⟩ := List.mem_map.mp h
  exact Text.isComponent_of_isIdentifier (List.all_eq_true.mp hb cs hcs)

theorem splitWhere_module (base : String) {package file : String} (hp : IsSnake package)
    (hf : IsSnake file) :
    Text.splitWhere (· == '.') (base ++ "." ++ package ++ "." ++ file).toList
      = Text.splitWhere (· == '.') base.toList ++ [package.toList, file.toList] := by
  have hnone : ∀ {s : String}, IsSnake s → ∀ c ∈ s.toList, (c == '.') = false := by
    intro s hs c hc
    simpa using fun he : c = '.' => hs.not_mem (by decide) (he ▸ hc)
  have hlist : (base ++ "." ++ package ++ "." ++ file).toList
      = base.toList ++ '.' :: (package.toList ++ '.' :: file.toList) := by
    simp [String.toList_append]
  rw [hlist, Text.splitWhere_append_cons (by rfl), Text.splitWhere_append_cons (by rfl),
    Text.splitWhere_of_none (hnone hp), Text.splitWhere_of_none (hnone hf)]
  rfl

theorem filter_splitWhere_module {o : Options} (hb : isModuleName o.baseModule)
    {package file : String} (hp : IsSnake package) (hne : package ≠ "") (hf : IsSnake file) :
    ((Text.splitWhere (· == '.') (o.baseModule ++ "." ++ package ++ "." ++ file).toList).filter
        (· != [])).map String.ofList
      = o.baseParts ++ [package] ++ if file = "" then [] else [file] := by
  have hbase : (Text.splitWhere (· == '.') o.baseModule.toList).filter (· != [])
      = Text.splitWhere (· == '.') o.baseModule.toList := by
    rw [List.filter_eq_self]
    intro cs hcs
    have hi : Text.isIdentifier cs := List.all_eq_true.mp hb cs hcs
    cases cs with
    | nil => simp [Text.isIdentifier] at hi
    | cons c cs => simp
  have hpl : package.toList ≠ [] := fun he => hne (String.toList_inj.mp he)
  rw [splitWhere_module _ hp hf, List.filter_append, hbase]
  by_cases hfe : file = ""
  · subst hfe
    simp [Options.baseParts, hpl]
  · have hfl : file.toList ≠ [] := fun he => hfe (String.toList_inj.mp he)
    simp [Options.baseParts, hpl, hfl, hfe]

theorem ofModule?_module {o : Options} (hb : isModuleName o.baseModule) (dir : String)
    {package file : String} (hp : IsSnake package) (hne : package ≠ "") (hf : IsSnake file) :
    ofModule? (o.baseModule ++ "." ++ package ++ "." ++ file) dir
      = some ⟨(ofString dir).root,
          (ofString dir).parts ++ (o.baseParts ++ moduleParts package file)⟩ := by
  have hparts := filter_splitWhere_module hb hp hne hf
  by_cases hfe : file = ""
  · simp only [hfe, if_pos, List.append_nil] at hparts
    rw [hfe, ofModule?_eq hparts (fun _ h => Options.isComponent_of_mem_baseParts hb h)
      hp.isComponent_py]
    simp [moduleParts]
  · simp only [hfe, if_false] at hparts
    have hall : ∀ f ∈ o.baseParts ++ [package], IsComponent f := by
      intro f hm
      rcases List.mem_append.mp hm with hm | hm
      · exact Options.isComponent_of_mem_baseParts hb hm
      · rw [List.mem_singleton.mp hm]
        exact hp.isComponent hne
    rw [ofModule?_eq hparts hall hf.isComponent_py]
    simp [moduleParts, hfe]

def moduleFile (package file : String) : String := "/".intercalate (moduleParts package file)

def Options.packageDir (o : Options) : String :=
  match o.outputDir with
  | .str dir => (ofString dir).root ++ "/".intercalate ((ofString dir).parts ++ o.baseParts) ++ "/"
  | _ => ""

theorem Options.path_eq {o : Options} (hb : isModuleName o.baseModule) {dir : String}
    (hd : o.outputDir = .str dir) {package file : String} (hp : IsSnake package)
    (hne : package ≠ "") (hf : IsSnake file) :
    o.path (o.baseModule ++ "." ++ package ++ "." ++ file)
      = .ok (o.packageDir ++ moduleFile package file) := by
  have hparts : moduleParts package file ≠ [] := by
    unfold moduleParts
    split_ifs <;> simp
  unfold Options.path Options.packageDir
  simp only [hd, ofModule?_module hb dir hp hne hf, FilePath.toString, ← List.append_assoc]
  rw [String.intercalate_append_of_ne_nil (by simp [o.baseParts_ne_nil]) hparts]
  simp [moduleFile, o.baseParts_ne_nil, String.append_assoc]

theorem Options.path_module {o : Options} (hb : isModuleName o.baseModule)
    {package file path : String} (hp : IsSnake package) (hne : package ≠ "") (hf : IsSnake file)
    (h : o.path (o.baseModule ++ "." ++ package ++ "." ++ file) = .ok path) :
    path = o.packageDir ++ moduleFile package file := by
  cases hd : o.outputDir with
  | str dir =>
    rw [o.path_eq hb hd hp hne hf] at h
    exact (Except.ok.inj h).symm
  | _ => simp [Options.path, hd] at h

theorem Options.path_of_render {o : Options} {d : Document} {a : Artifact}
    (h : o.render d = .ok a) : o.path d.module = .ok a.path := by
  obtain ⟨path, hp, h⟩ := Outcome.bind_eq_ok.mp h
  obtain ⟨content, -, h⟩ := Outcome.bind_eq_ok.mp h
  obtain rfl := Except.ok.inj h
  exact hp

theorem Options.render_path {o : Options} (hb : isModuleName o.baseModule)
    {package file : String} (hp : IsSnake package) (hne : package ≠ "") (hf : IsSnake file)
    {d : Document} (hd : d.module = o.baseModule ++ "." ++ package ++ "." ++ file)
    {a : Artifact} (h : o.render d = .ok a) :
    a.path = o.packageDir ++ moduleFile package file := by
  have hpath := o.path_of_render h
  rw [hd] at hpath
  exact o.path_module hb hp hne hf hpath

/-- The files of a package, inside its directory, in the order of their artifacts. -/
def typeFiles (m : Model) : List String :=
  (m.structures.map fun s => Naming.snake s.name).map (moduleFile "types")

def serverFiles (s : Service) : List String :=
  ["contract", "handlers", "routes"].map fun ending =>
    moduleFile "server" (Naming.snake s.name ++ "_" ++ ending)

def clientFiles (s : Service) : List String :=
  [moduleFile "client" (Naming.snake s.name ++ "_client")]

theorem Types.artifacts_path {m : Model} {o : Options} (hb : isModuleName o.baseModule)
    {as : List Artifact} (h : Types.artifacts m o = .ok as) :
    as.map (·.path) = (typeFiles m).map (o.packageDir ++ ·) := by
  rw [typeFiles, List.map_map, List.map_map]
  refine Outcome.map_of_mapM_eq_ok ?_ h
  intro s a ha
  obtain ⟨d, hd, ha⟩ := Outcome.bind_eq_ok.mp ha
  obtain ⟨-, -, hmodule, -⟩ := Types.document_cases hd
  exact o.render_path hb (by decide) (by decide) (isSnake_snake s.name) hmodule ha

theorem Types.baseImports_asksForWords (plans : List Types.FieldPlan) (rules : List Rule) :
    (Types.baseImports plans rules).AsksForWords := by
  have h := ((Imports.asksForWords_empty.add (by decide : Imports.IsWord "__future__")
    ["annotations"]).add (by decide : Imports.IsWord "dataclasses") ["dataclass"]).add
    (by decide : Imports.IsWord "dataclasses_json") ["dataclass_json"]
  unfold Types.baseImports
  split_ifs <;> repeat' first | exact h | apply Imports.AsksForWords.add
  all_goals decide

theorem Types.document_asksForWords {shapes : List Shape} {o : Options} {s : Shape} {d : Document}
    (h : Types.document shapes o s = .ok d) :
    d.imports.AsksForWords ∧ d.lateImports.AsksForWords := by
  have hbase : ∀ b : Base, ∀ r ∈ b.names, Imports.IsWord r.1 := by
    intro b r hr
    unfold Base.names at hr
    split_ifs at hr
    · rw [List.mem_singleton.mp hr]
      decide
    · rw [List.mem_singleton.mp hr]
      decide
    · cases hr
  obtain ⟨checks, -, -, -, -, himports, hlate⟩ := Types.document_cases h
  obtain ⟨hmodules, hnames⟩ := Types.baseImports_asksForWords (plans shapes s) (s.rules shapes)
  rw [himports, hlate]
  refine ⟨⟨hmodules, fun r hr => ?_⟩, ⟨by simp [siblingImports], by simp [siblingImports]⟩⟩
  rcases List.mem_append.mp hr with hr | hr
  · exact hnames r hr
  · obtain ⟨x, -, hr⟩ := List.mem_flatMap.mp hr
    exact hbase _ r hr

theorem Types.artifact_isOk {shapes : List Shape} {o : Options} {s : Shape} {dir : String}
    (hb : isModuleName o.baseModule) (hd : o.outputDir = .str dir) :
    ∃ a, Types.artifact shapes o s = .ok a := by
  obtain ⟨d, hdoc⟩ := Types.document_isOk shapes o s
  obtain ⟨-, -, hmodule, -⟩ := Types.document_cases hdoc
  obtain ⟨himports, hlate⟩ := Types.document_asksForWords hdoc
  obtain ⟨ls, hls⟩ := himports.lines_isOk
  obtain ⟨late, hlate⟩ := hlate.lines_isOk
  obtain ⟨text, htext⟩ := Document.render_isOk hls hlate
  have hpath := o.path_eq hb hd (by decide : IsSnake "types") (by decide) (isSnake_snake s.name)
  rw [← Options.moduleName, ← hmodule] at hpath
  exact ⟨_, Outcome.bind_eq_ok.mpr ⟨d, hdoc, Outcome.bind_eq_ok.mpr ⟨_, hpath,
    Outcome.bind_eq_ok.mpr ⟨text, htext, rfl⟩⟩⟩⟩

theorem Types.artifacts_isOk {m : Model} {o : Options} {dir : String}
    (hb : isModuleName o.baseModule) (hd : o.outputDir = .str dir) :
    ∃ as, Types.artifacts m o = .ok as :=
  Outcome.mapM_isOk fun _ _ => Types.artifact_isOk hb hd

theorem isSnake_ending (name : String) {ending : String} (h : IsSnake ending) :
    IsSnake (Naming.snake name ++ "_" ++ ending) :=
  ((isSnake_snake name).append (by decide)).append h

theorem Server.artifacts_path {m : Model} {o : Options} (hb : isModuleName o.baseModule)
    {as : List Artifact} (h : Server.artifacts m o = .ok as) :
    as.map (·.path) = ((m.service.elim [] serverFiles)).map (o.packageDir ++ ·) := by
  unfold Server.artifacts at h
  split at h
  next hs =>
    obtain rfl := Except.ok.inj h
    simp [hs]
  next s hs =>
    have hpath : ∀ {ending : String} {d : Document} {a : Artifact}, IsSnake ending →
        d.module = Server.moduleName o s ending → o.render d = .ok a →
        a.path = o.packageDir ++ moduleFile "server" (Naming.snake s.name ++ "_" ++ ending) := by
      intro ending d a he hd ha
      refine o.render_path hb (by decide) (by decide) (isSnake_ending s.name he) ?_ ha
      rw [hd, Server.moduleName, Options.moduleName]
      simp only [String.append_assoc]
    obtain ⟨appName, -, h⟩ := Outcome.bind_eq_ok.mp h
    obtain ⟨contract, hc, h⟩ := Outcome.bind_eq_ok.mp h
    obtain ⟨handlers, hh, h⟩ := Outcome.bind_eq_ok.mp h
    obtain ⟨routes, hr, h⟩ := Outcome.bind_eq_ok.mp h
    obtain rfl := Except.ok.inj h
    simp [hs, serverFiles, hpath (by decide) rfl hc, hpath (by decide) rfl hh,
      hpath (by decide) rfl hr]

theorem Client.artifacts_path {m : Model} {o : Options} (hb : isModuleName o.baseModule)
    {as : List Artifact} (h : Client.artifacts m o = .ok as) :
    as.map (·.path) = ((m.service.elim [] clientFiles)).map (o.packageDir ++ ·) := by
  unfold Client.artifacts at h
  split at h
  next hs =>
    obtain rfl := Except.ok.inj h
    simp [hs]
  next s hs =>
    obtain ⟨appName, -, h⟩ := Outcome.bind_eq_ok.mp h
    split at h
    next name =>
      obtain ⟨client, hc, h⟩ := Outcome.bind_eq_ok.mp h
      obtain rfl := Except.ok.inj h
      have hf : IsSnake (Naming.snake s.name ++ "_client") :=
        (isSnake_snake s.name).append (by decide)
      have hd : (Client.client o name s).module
          = o.baseModule ++ "." ++ "client" ++ "." ++ (Naming.snake s.name ++ "_client") := by
        simp only [Client.client, Options.document, Options.moduleName, String.append_assoc]
      simp [hs, clientFiles, o.render_path hb (by decide) (by decide) hf hd hc]
    next => simp [throw, throwThe, MonadExceptOf.throw] at h

theorem moduleFile_injective (package : String) : Function.Injective (moduleFile package) := by
  intro file file' h
  have hcancel : ∀ {s t : String}, package ++ s = package ++ t → s.toList = t.toList := by
    intro s t hst
    have hl := congrArg String.toList hst
    simpa only [String.toList_append, List.append_cancel_left_eq] using hl
  unfold moduleFile moduleParts at h
  split_ifs at h with hf hf' hf'
  · rw [hf, hf']
  · rw [String.intercalate_singleton, String.intercalate_cons_cons, String.append_assoc] at h
    exact absurd (hcancel h) (by simp)
  · rw [String.intercalate_singleton, String.intercalate_cons_cons, String.append_assoc] at h
    exact absurd (hcancel h) (by simp)
  · rw [String.intercalate_cons_cons, String.intercalate_cons_cons, String.append_assoc,
      String.append_assoc] at h
    have hl := hcancel h
    simp only [String.intercalate_singleton, String.toList_append,
      List.append_cancel_left_eq, List.append_cancel_right_eq] at hl
    exact String.toList_inj.mp hl

theorem head?_moduleFile {package : String} {c : Char} (h : package.toList.head? = some c)
    (file : String) : (moduleFile package file).toList.head? = some c := by
  unfold moduleFile moduleParts
  split_ifs <;> simp [List.head?_append, h]

theorem moduleFile_ne {package package' : String} {c c' : Char}
    (h : package.toList.head? = some c) (h' : package'.toList.head? = some c') (hne : c ≠ c')
    (file file' : String) : moduleFile package file ≠ moduleFile package' file' := by
  intro he
  have hc := head?_moduleFile h file
  rw [he, head?_moduleFile h' file'] at hc
  exact hne (Option.some.inj hc).symm

theorem serverFiles_nodup (s : Service) : (serverFiles s).Nodup := by
  refine List.Nodup.map ?_ (by decide)
  intro ending ending' h
  have hl := congrArg String.toList (moduleFile_injective "server" h)
  simp only [String.toList_append, List.append_cancel_left_eq] at hl
  exact String.toList_inj.mp hl

/-- The files of a service are distinct from each other and from those of the types. -/
theorem files_nodup_iff (m : Model) :
    (typeFiles m ++ m.service.elim [] serverFiles ++ m.service.elim [] clientFiles).Nodup
      ↔ (m.structures.map fun s => Naming.snake s.name).Nodup := by
  have htypes : (typeFiles m).Nodup ↔ (m.structures.map fun s => Naming.snake s.name).Nodup :=
    List.nodup_map_iff (moduleFile_injective "types")
  cases hs : m.service with
  | none => simpa using htypes
  | some s =>
    have hserver : ∀ f ∈ typeFiles m, f ∉ serverFiles s := by
      intro f hf hf'
      obtain ⟨name, -, rfl⟩ := List.mem_map.mp hf
      obtain ⟨ending, -, he⟩ := List.mem_map.mp hf'
      exact moduleFile_ne (by rfl) (by rfl) (by decide) _ _ he
    have hclient : ∀ f ∈ typeFiles m ++ serverFiles s, f ∉ clientFiles s := by
      intro f hf hf'
      rw [List.mem_singleton.mp hf'] at hf
      rcases List.mem_append.mp hf with hf | hf
      · obtain ⟨name, -, he⟩ := List.mem_map.mp hf
        exact moduleFile_ne (by rfl) (by rfl) (by decide) _ _ he
      · obtain ⟨ending, -, he⟩ := List.mem_map.mp hf
        exact moduleFile_ne (by rfl) (by rfl) (by decide) _ _ he
    simp only [Option.elim_some]
    rw [List.nodup_append, List.nodup_append, htypes]
    have hone : (clientFiles s).Nodup := List.nodup_singleton _
    constructor
    · intro h
      exact h.1.1
    · intro h
      refine ⟨⟨h, serverFiles_nodup s, ?_⟩, hone, ?_⟩
      · intro f hf g hg he
        exact hserver f hf (he ▸ hg)
      · intro f hf g hg he
        exact hclient f hf (he ▸ hg)

end Emit

theorem Config.isModuleName_of_options {c : Config} {o : Emit.Options} (h : c.options = .ok o) :
    isModuleName o.baseModule := by
  unfold Config.options at h
  split_ifs at h
  split at h
  next base hbase =>
    split_ifs at h with hb
    obtain rfl := Except.ok.inj h
    simp only [Bool.and_eq_true] at hb
    exact hb.2
  next => simp at h

theorem Part.artifacts_of_none {m : Model} (hs : m.service = none) (o : Emit.Options) {p : Part}
    (hp : p ≠ .types) : p.artifacts m o = .ok [] := by
  cases p with
  | types => exact absurd rfl hp
  | server => rw [artifacts, Emit.Server.artifacts, hs]
  | client => rw [artifacts, Emit.Client.artifacts, hs]

theorem Part.result_generate (m : Model) (o : Emit.Options) (p : Part) :
    (Part.generate m o p).result = p.artifacts m o := by
  unfold Part.generate
  cases h : p.artifacts m o with
  | error e => rfl
  | ok as =>
    exact Outcome.result_bind_eq_ok.mpr ⟨as, rfl,
      Outcome.result_bind_eq_ok.mpr ⟨⟨⟩, Outcome.result_forM_note _, rfl⟩⟩

/-- With all parts, a package has the artifacts of the types, then of the server, then of the
client. -/
theorem artifacts_of_generate {c : Config} {m : Model} {as : List Artifact}
    (hall : c.parts = [.types, .server, .client]) (h : (generate c m).result = .ok as) :
    ∃ o types server client, c.options = .ok o ∧ Emit.Types.artifacts m o = .ok types
      ∧ Emit.Server.artifacts m o = .ok server ∧ Emit.Client.artifacts m o = .ok client
      ∧ as = types ++ server ++ client := by
  obtain ⟨o, ho, h⟩ := Outcome.result_bind_eq_ok.mp h
  obtain ⟨batches, hb, h⟩ := Outcome.result_bind_eq_ok.mp h
  obtain ⟨_, -, h⟩ := Outcome.result_bind_eq_ok.mp h
  obtain rfl := Except.ok.inj h
  rw [hall] at hb
  obtain ⟨types, ht, hb⟩ := Outcome.result_bind_eq_ok.mp hb
  obtain ⟨server, hs, hb⟩ := Outcome.result_bind_eq_ok.mp hb
  obtain ⟨client, hc, hb⟩ := Outcome.result_bind_eq_ok.mp hb
  obtain rfl := Except.ok.inj hb
  rw [Part.result_generate] at ht hs hc
  exact ⟨o, types, server, client, ho, ht, hs, hc, by simp⟩

/-- A package is generated where each part asked for has its artifacts. -/
theorem generate_eq_ok {c : Config} {o : Emit.Options} {m : Model} (ho : c.options = .ok o)
    {f : Part → List Artifact} (hf : ∀ p ∈ c.parts, p.artifacts m o = .ok (f p)) :
    (generate c m).result = .ok (c.parts.flatMap f) := by
  have hbatches : (c.parts.mapM (Part.generate m o)).result = .ok (c.parts.map f) :=
    Outcome.result_mapM_eq_ok fun p hp => (Part.result_generate m o p).trans (hf p hp)
  rw [List.flatMap_def]
  exact Outcome.result_bind_eq_ok.mpr ⟨o, ho, Outcome.result_bind_eq_ok.mpr ⟨_, hbatches, rfl⟩⟩

theorem generate_paths {c : Config} {m : Model} {as : List Artifact}
    (hall : c.parts = [.types, .server, .client]) (h : (generate c m).result = .ok as) :
    ∃ o, c.options = .ok o ∧ as.map (·.path) =
      (Emit.typeFiles m ++ m.service.elim [] Emit.serverFiles
        ++ m.service.elim [] Emit.clientFiles).map (o.packageDir ++ ·) := by
  obtain ⟨o, types, server, client, ho, ht, hs, hc, rfl⟩ := artifacts_of_generate hall h
  have hb := Config.isModuleName_of_options ho
  refine ⟨o, ho, ?_⟩
  rw [List.map_append, List.map_append, Emit.Types.artifacts_path hb ht,
    Emit.Server.artifacts_path hb hs, Emit.Client.artifacts_path hb hc, List.map_append,
    List.map_append]

theorem generate_types_isOk {c : Config} {o : Emit.Options} {m : Model} {dir : String}
    (ho : c.options = .ok o) (hd : o.outputDir = .str dir) (hs : m.service = none) :
    ∃ as, (generate c m).result = .ok as := by
  have hparts : ∀ p : Part, ∃ as, p.artifacts m o = .ok as := by
    intro p
    by_cases hp : p = .types
    · subst hp
      exact Emit.Types.artifacts_isOk (Config.isModuleName_of_options ho) hd
    · exact ⟨[], Part.artifacts_of_none hs o hp⟩
  choose f hf using hparts
  exact ⟨_, generate_eq_ok ho fun p _ => hf p⟩

def structuresDocument (ids : List String) : Value :=
  .map [("shapes", .map (ids.map fun id => (id, .map [("type", .str "structure")])))]

def structuresModel (ns : String) (ids : List String) : Model :=
  { ns, shapes := ids.map fun id => { id, name := Naming.shapeName id, type := .struct },
    service := none, metadata := [] }

def appConfig : Config := { baseModule := .str "app", appName := .str "app" }

theorem generate_structures_isOk (ns : String) (ids : List String) :
    ∃ as, (generate appConfig (structuresModel ns ids)).result = .ok as :=
  generate_types_isOk (o := ⟨"app", .str ".", .str "app", true⟩) rfl rfl rfl

/-- The artifacts of a package have distinct paths exactly where the names of its structures differ
in snake case. -/
theorem generate_paths_nodup_iff (c : Config) (m : Model) (as : List Artifact)
    (hall : c.parts = [.types, .server, .client]) (h : (generate c m).result = .ok as) :
    (as.map (·.path)).Nodup ↔ (m.structures.map fun s => Naming.snake s.name).Nodup := by
  obtain ⟨o, -, hp⟩ := generate_paths hall h
  have hinj : Function.Injective (o.packageDir ++ ·) := by
    intro s t hst
    have hl := congrArg String.toList hst
    simp only [String.toList_append, List.append_cancel_left_eq] at hl
    exact String.toList_inj.mp hl
  rw [hp, List.nodup_map_iff hinj]
  exact Emit.files_nodup_iff m

theorem generate_paths_nodup_post_comment :
    ∃ m as, (Model.build .lenient (structuresDocument ["a#Post", "b#Comment"])).result = .ok m
      ∧ (generate appConfig m).result = .ok as ∧ (as.map (·.path)).Nodup := by
  obtain ⟨as, h⟩ := generate_structures_isOk "a" ["a#Post", "b#Comment"]
  refine ⟨_, as, rfl, h, ?_⟩
  exact (generate_paths_nodup_iff _ _ _ rfl h).mpr (by decide)

/-- Shapes of one name in two namespaces are put in one file. -/
theorem generate_paths_post_post :
    ∃ m as, (Model.build .lenient (structuresDocument ["a#Post", "b#Post"])).result = .ok m
      ∧ (m.structures.map (·.id)).Nodup ∧ (generate appConfig m).result = .ok as
      ∧ as.map (·.path) = ["app/types/post.py", "app/types/post.py"] := by
  obtain ⟨as, h⟩ := generate_structures_isOk "a" ["a#Post", "b#Post"]
  refine ⟨structuresModel "a" ["a#Post", "b#Post"], as, rfl, by decide, h, ?_⟩
  obtain ⟨o, ho, hp⟩ := generate_paths rfl h
  obtain rfl := Except.ok.inj ho
  rw [hp]
  decide

end SmithyGen
