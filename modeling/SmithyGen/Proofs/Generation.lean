import SmithyGen.Proofs.Package

namespace SmithyGen

namespace Emit

section Modules

variable {m : Model} {o : Options} {as : List Artifact}

theorem map_module_of_render {ds : List Document} (h : ds.mapM o.render = .ok as) :
    as.map (·.module) = ds.map (·.module) := by
  refine Outcome.map_of_mapM_eq_ok ?_ h
  intro d a ha
  obtain ⟨path, -, ha⟩ := Outcome.bind_eq_ok.mp ha
  obtain ⟨content, -, ha⟩ := Outcome.bind_eq_ok.mp ha
  obtain rfl := Except.ok.inj ha
  rfl

def typeModules (m : Model) (base : String) : List String :=
  m.structures.map fun s => base ++ ".types." ++ Naming.snake s.name

def serverModules (m : Model) (base : String) : List String :=
  m.service.elim [] fun s => ["contract", "handlers", "routes"].map fun ending =>
    base ++ ".server." ++ Naming.snake s.name ++ "_" ++ ending

def clientModules (m : Model) (base : String) : List String :=
  m.service.elim [] fun s => [base ++ ".client." ++ Naming.snake s.name ++ "_client"]

theorem Types.artifacts_module (h : Types.artifacts m o = .ok as) :
    as.map (·.module) = typeModules m o.baseModule := by
  obtain ⟨ds, hds, hrender⟩ := Types.documents_of_artifacts h
  rw [map_module_of_render hrender]
  refine Outcome.map_of_mapM_eq_ok ?_ hds
  intro s d hd
  rw [(isModule_type hd).module_eq]
  simp [String.append_assoc]

theorem Server.artifacts_module (h : Server.artifacts m o = .ok as) :
    as.map (·.module) = serverModules m o.baseModule := by
  obtain ⟨ds, hds, hrender⟩ := Server.documents_of_artifacts h
  rw [map_module_of_render hrender]
  unfold Server.documents at hds
  unfold serverModules
  cases hs : m.service with
  | none =>
    rw [hs] at hds
    obtain rfl := Except.ok.inj hds
    rfl
  | some s =>
    rw [hs] at hds
    obtain ⟨appName, -, hds⟩ := Outcome.bind_eq_ok.mp hds
    obtain rfl := Except.ok.inj hds
    have hmodule : ∀ ending, Server.moduleName o s ending
        = o.baseModule ++ ".server." ++ Naming.snake s.name ++ "_" ++ ending := by
      intro ending
      rw [Server.moduleName, Options.moduleName]
      simp [String.append_assoc]
    simp only [Option.elim_some, List.map_cons, List.map_nil, ← hmodule]
    rfl

theorem Client.artifacts_module (h : Client.artifacts m o = .ok as) :
    as.map (·.module) = clientModules m o.baseModule := by
  obtain ⟨ds, hds, hrender⟩ := Client.documents_of_artifacts h
  rw [map_module_of_render hrender]
  unfold Client.documents at hds
  unfold clientModules
  cases hs : m.service with
  | none =>
    rw [hs] at hds
    obtain rfl := Except.ok.inj hds
    rfl
  | some s =>
    rw [hs] at hds
    obtain ⟨appName, -, hds⟩ := Outcome.bind_eq_ok.mp hds
    split at hds
    next name =>
      obtain rfl := Except.ok.inj hds
      simp only [Option.elim_some, List.map_cons, List.map_nil, isModule_client.module_eq]
      simp [String.append_assoc]
    next => cases hds

end Modules

end Emit

open Emit

namespace Part

def modules (m : Model) (base : String) : Part → List String
  | .types => typeModules m base
  | .server => serverModules m base
  | .client => clientModules m base

variable {m : Model} {o : Options} {p : Part}

theorem artifacts_module {as : List Artifact} (h : p.artifacts m o = .ok as) :
    as.map (·.module) = p.modules m o.baseModule := by
  cases p with
  | types => exact Types.artifacts_module h
  | server => exact Server.artifacts_module h
  | client => exact Client.artifacts_module h

theorem artifacts_refused (hp : p ≠ .types) (hservice : m.service.isSome = true)
    (happ : o.appName.truthy = false) :
    p.artifacts m o = .error (.configuration .appNameMissing) := by
  obtain ⟨s, hs⟩ := Option.isSome_iff_exists.mp hservice
  have hrequire : o.requireAppName = .error (.configuration .appNameMissing) := by
    rw [Options.requireAppName, happ]
    rfl
  cases p with
  | types => exact absurd rfl hp
  | server =>
    simp only [artifacts, Server.artifacts, hs, hrequire]
    rfl
  | client =>
    simp only [artifacts, Client.artifacts, hs, hrequire]
    rfl

end Part

section Generating

variable {c : Config} {m : Model} {o : Options}

theorem generate_eq_error (ho : c.options = .ok o) {e : Fault}
    (hall : ∀ p ∈ c.parts, (∃ as, p.artifacts m o = .ok as) ∨ p.artifacts m o = .error e)
    (hfails : ∃ p ∈ c.parts, p.artifacts m o = .error e) :
    (generate c m).result = .error e := by
  have hbatches : (c.parts.mapM (Part.generate m o)).result = .error e := by
    refine Outcome.result_mapM_eq_error ?_ ?_
    · simpa only [Part.result_generate] using hall
    · simpa only [Part.result_generate] using hfails
  unfold generate
  rw [ho]
  exact (Outcome.result_bind_of_ok rfl _).trans (Outcome.result_bind_of_error hbatches _)

/-- Whether an option is missing that the parts asked for need: a base module whose parts are
identifiers, and an application name where there is a service to serve or to call. -/
def Config.LacksOption (c : Config) (m : Model) (base : String) : Prop :=
  base = "" ∨ isModuleName base = false
    ∨ m.service.isSome = true ∧ (c.generateServer.truthy = true ∨ c.generateClient.truthy = true)
      ∧ c.appName.truthy = false

/-- The modules of the parts asked for, in order. -/
def Config.modules (c : Config) (m : Model) (base : String) : List String :=
  (if c.generateTypes.truthy then typeModules m base else [])
    ++ (if c.generateServer.truthy then serverModules m base else [])
    ++ (if c.generateClient.truthy then clientModules m base else [])

theorem Config.flatMap_parts (c : Config) (m : Model) (base : String) :
    c.parts.flatMap (Part.modules m base) = c.modules m base := by
  unfold Config.parts Config.modules
  split_ifs <;> simp [Part.modules]

theorem Config.mem_parts_iff (c : Config) : (∃ p ∈ c.parts, p ≠ .types)
    ↔ c.generateServer.truthy = true ∨ c.generateClient.truthy = true := by
  unfold Config.parts
  split_ifs with htypes hserver hclient <;> simp [*]

theorem generate_isOk_of_name (ho : c.options = .ok o) {dir : String}
    (hdir : o.outputDir = .str dir) (happ : o.appName = .null ∨ ∃ name, o.appName = .str name)
    (h : ¬(m.service.isSome = true ∧ (∃ p ∈ c.parts, p ≠ .types) ∧ o.appName.truthy = false)) :
    ∃ as, (generate c m).result = .ok as ∧ as.map (·.module) = c.modules m o.baseModule := by
  have hb := Config.isModuleName_of_options ho
  have hparts : ∀ p ∈ c.parts, ∃ as, p.artifacts m o = .ok as := by
    intro p hp
    refine Part.artifacts_isOk hb hdir happ ?_
    by_cases htypes : p = .types
    · exact Or.inl htypes
    right
    cases hservice : m.service.isSome with
    | false => exact Or.inl rfl
    | true =>
      right
      by_contra hname
      exact h ⟨hservice, ⟨p, hp, htypes⟩, by simpa using hname⟩
  choose! f hf using hparts
  refine ⟨_, generate_eq_ok ho hf, ?_⟩
  rw [List.map_flatMap, ← Config.flatMap_parts, List.flatMap_congr]
  exact fun p hp => Part.artifacts_module (hf p hp)

theorem generate_refused (ho : c.options = .ok o) {dir : String} (hdir : o.outputDir = .str dir)
    (happ : o.appName = .null ∨ ∃ name, o.appName = .str name) (hservice : m.service.isSome = true)
    (hpart : ∃ p ∈ c.parts, p ≠ .types) (hname : o.appName.truthy = false) :
    (generate c m).result = .error (.configuration .appNameMissing) := by
  have hb := Config.isModuleName_of_options ho
  refine generate_eq_error ho (fun p _ => ?_) ?_
  · by_cases hp : p = .types
    · exact Or.inl (Part.artifacts_isOk hb hdir happ (Or.inl hp))
    · exact Or.inr (Part.artifacts_refused hp hservice hname)
  · obtain ⟨p, hmem, hp⟩ := hpart
    exact ⟨p, hmem, Part.artifacts_refused hp hservice hname⟩

/-- Generating a package fails exactly where an option is missing, and then reports it; else it
gives the artifacts of the parts asked for, in order. Where a document has hidden the options
themselves, it fails in any case. -/
theorem generate_result {base dir : String} (hbase : c.baseModule = .str base)
    (hdir : c.outputDir = .str dir) (happ : c.appName = .null ∨ ∃ name, c.appName = .str name) :
    (c.hidesOptions = true → (generate c m).result = .error .wrongType)
      ∧ (c.hidesOptions = false →
        (c.LacksOption m base → ∃ cause, (generate c m).result = .error (.configuration cause))
          ∧ (¬c.LacksOption m base → ∃ as, (generate c m).result = .ok as
            ∧ as.map (·.module) = c.modules m base)) := by
  refine ⟨fun hhidden => ?_, fun hshown => ?_⟩
  · have ho : c.options = .error .wrongType := by rw [Config.options, if_pos hhidden]
    unfold generate
    rw [ho]
    rfl
  -- The base module is looked at before any part, the application name only by the parts.
  by_cases hb : (base != "" && isModuleName base) = true
  · have ho : c.options = .ok ⟨base, c.outputDir, c.appName, c.addComment.truthy⟩ := by
      simp [Config.options, hshown, hbase, hb]
    have hvalid : base ≠ "" ∧ isModuleName base = true := by simpa using hb
    have hlacks : c.LacksOption m base ↔ m.service.isSome = true
        ∧ (∃ p ∈ c.parts, p ≠ .types) ∧ c.appName.truthy = false := by
      simp [Config.LacksOption, hvalid, Config.mem_parts_iff]
    refine ⟨fun h => ?_, fun h => ?_⟩
    · obtain ⟨hservice, hpart, hname⟩ := hlacks.mp h
      exact ⟨_, generate_refused ho hdir happ hservice hpart hname⟩
    · have hgenerated := generate_isOk_of_name ho hdir happ fun hnot => h (hlacks.mpr hnot)
      exact hgenerated
  · have ho : c.options = .error (.configuration (.baseModule (c.baseModule.literal .plain))) := by
      simp [Config.options, hshown, hbase, hb]
    have hlacks : c.LacksOption m base := by
      by_cases hempty : base = ""
      · exact Or.inl hempty
      · exact Or.inr (Or.inl (by simpa [hempty] using hb))
    have hresult : (generate c m).result
        = .error (.configuration (.baseModule (c.baseModule.literal .plain))) := by
      unfold generate
      rw [ho]
      rfl
    exact ⟨fun _ => ⟨_, hresult⟩, fun h => absurd hlacks h⟩

theorem generate_result_post :
    appConfig.baseModule = .str "app" ∧ appConfig.outputDir = .str "."
      ∧ (appConfig.appName = .null ∨ ∃ name, appConfig.appName = .str name)
      ∧ ∃ m as, (Model.build .lenient (structuresDocument ["a#Post"])).result = .ok m
        ∧ (generate appConfig m).result = .ok as ∧ as.map (·.module) = ["app.types.post"] := by
  have happ : appConfig.appName = .null ∨ ∃ name, appConfig.appName = .str name :=
    Or.inr ⟨"app", rfl⟩
  refine ⟨rfl, rfl, happ, structuresModel "a" ["a#Post"], ?_⟩
  have hlacks : ¬appConfig.LacksOption (structuresModel "a" ["a#Post"]) "app" := by
    unfold Config.LacksOption
    decide
  obtain ⟨as, has, hmodules⟩ := ((generate_result rfl rfl happ).2 rfl).2 hlacks
  exact ⟨as, rfl, has, hmodules.trans (by decide)⟩

/-- A document whose key hides the options: nothing is missing, and there is no package. -/
theorem generate_hiddenOptions :
    ∃ c m, Config.ofValue (.map [("base_module", .str "app"), ("emitter_options", .null)]) = .ok c
      ∧ c.baseModule = .str "app" ∧ c.outputDir = .str "." ∧ c.appName = .null
      ∧ (Model.build .lenient (structuresDocument ["a#Post"])).result = .ok m
      ∧ ¬c.LacksOption m "app"
      ∧ (generate c m).result = .error .wrongType ∧ Fault.isReported .wrongType = false := by
  refine ⟨{ baseModule := .str "app", hidesOptions := true }, structuresModel "a" ["a#Post"], rfl,
    rfl, rfl, rfl, rfl, ?_, rfl, rfl⟩
  unfold Config.LacksOption
  decide

end Generating

end SmithyGen
