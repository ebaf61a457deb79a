import SmithyGen.Proofs.ArtifactPaths

namespace SmithyGen

namespace Emit

def Types.documents (m : Model) (o : Options) : Except Fault (List Document) :=
  m.structures.mapM (Types.document m.shapes o)

def Server.documents (m : Model) (o : Options) : Except Fault (List Document) :=
  match m.service with
  | none => .ok []
  | some s => do
    let appName ← o.requireAppName
    return [Server.contract o s, Server.handlers o m.shapes appName s, Server.routes o s]

def Client.documents (m : Model) (o : Options) : Except Fault (List Document) :=
  match m.service with
  | none => .ok []
  | some s => do
    match ← o.requireAppName with
    | .str appName => return [Client.client o appName s]
    | _ => throw .wrongType

theorem Types.documents_of_artifacts {m : Model} {o : Options} {as : List Artifact}
    (h : Types.artifacts m o = .ok as) :
    ∃ ds, Types.documents m o = .ok ds ∧ ds.mapM o.render = .ok as :=
  Outcome.mapM_bind_eq_ok h

theorem Server.documents_of_artifacts {m : Model} {o : Options} {as : List Artifact}
    (h : Server.artifacts m o = .ok as) :
    ∃ ds, Server.documents m o = .ok ds ∧ ds.mapM o.render = .ok as := by
  unfold Server.artifacts at h
  unfold Server.documents
  revert h
  cases m.service with
  | none =>
    intro h
    obtain rfl := Except.ok.inj h
    exact ⟨[], rfl, rfl⟩
  | some s =>
    intro h
    obtain ⟨appName, happ, h⟩ := Outcome.bind_eq_ok.mp h
    obtain ⟨contract, hc, h⟩ := Outcome.bind_eq_ok.mp h
    obtain ⟨handlers, hh, h⟩ := Outcome.bind_eq_ok.mp h
    obtain ⟨routes, hr, h⟩ := Outcome.bind_eq_ok.mp h
    obtain rfl := Except.ok.inj h
    refine ⟨_, Outcome.bind_eq_ok.mpr ⟨appName, happ, rfl⟩, ?_⟩
    simp only [List.mapM_cons, List.mapM_nil, hc, hh, hr]
    rfl

theorem Client.documents_of_artifacts {m : Model} {o : Options} {as : List Artifact}
    (h : Client.artifacts m o = .ok as) :
    ∃ ds, Client.documents m o = .ok ds ∧ ds.mapM o.render = .ok as := by
  unfold Client.artifacts at h
  unfold Client.documents
  revert h
  cases m.service with
  | none =>
    intro h
    obtain rfl := Except.ok.inj h
    exact ⟨[], rfl, rfl⟩
  | some s =>
    intro h
    obtain ⟨appName, happ, h⟩ := Outcome.bind_eq_ok.mp h
    split at h
    · next name =>
      obtain ⟨client, hc, h⟩ := Outcome.bind_eq_ok.mp h
      obtain rfl := Except.ok.inj h
      refine ⟨_, Outcome.bind_eq_ok.mpr ⟨.str name, happ, rfl⟩, ?_⟩
      simp only [List.mapM_cons, List.mapM_nil, hc]
      rfl
    · simp [throw, throwThe, MonadExceptOf.throw] at h

/-- The modules of a package with all its parts, in the order of its artifacts. -/
def documents (m : Model) (o : Options) : Except Fault (List Document) := do
  let types ← Types.documents m o
  let server ← Server.documents m o
  let client ← Client.documents m o
  return types ++ server ++ client

end Emit

/-- The artifacts of a package are its modules, rendered. -/
theorem documents_of_generate {c : Config} {m : Model} {as : List Artifact}
    (hall : c.parts = [.types, .server, .client]) (h : (generate c m).result = .ok as) :
    ∃ o ds, c.options = .ok o ∧ Emit.documents m o = .ok ds ∧ ds.mapM o.render = .ok as := by
  obtain ⟨o, types, server, client, ho, ht, hs, hc, rfl⟩ := artifacts_of_generate hall h
  obtain ⟨dt, hdt, hrt⟩ := Emit.Types.documents_of_artifacts ht
  obtain ⟨ds, hds, hrs⟩ := Emit.Server.documents_of_artifacts hs
  obtain ⟨dc, hdc, hrc⟩ := Emit.Client.documents_of_artifacts hc
  refine ⟨o, dt ++ ds ++ dc, ho, ?_, ?_⟩
  · rw [Emit.documents, hdt, hds, hdc]
    rfl
  · exact Outcome.mapM_append_eq_ok (Outcome.mapM_append_eq_ok hrt hrs) hrc

namespace Emit

/-- A module of a package, and the place of its name in it. -/
structure IsModule (o : Options) (package file : String) (d : Document) : Prop where
  module_eq : d.module = o.baseModule ++ "." ++ package ++ "." ++ file
  isSnake_package : IsSnake package
  isSnake_file : IsSnake file

theorem isModule_type {shapes : List Shape} {o : Options} {s : Shape} {d : Document}
    (h : Types.document shapes o s = .ok d) : IsModule o "types" (Naming.snake s.name) d where
  module_eq := by
    obtain ⟨checks, -, h⟩ := Outcome.bind_eq_ok.mp h
    obtain rfl := Except.ok.inj h
    rfl
  isSnake_package := by decide
  isSnake_file := isSnake_snake s.name

theorem isModule_server {o : Options} {s : Service} {d : Document} {ending : String}
    (hd : d.module = Server.moduleName o s ending) (he : IsSnake ending) :
    IsModule o "server" (Naming.snake s.name ++ "_" ++ ending) d where
  module_eq := by
    rw [hd, Server.moduleName, Options.moduleName]
    simp only [String.append_assoc]
  isSnake_package := by decide
  isSnake_file := isSnake_ending s.name he

theorem isModule_client {o : Options} {appName : String} {s : Service} :
    IsModule o "client" (Naming.snake s.name ++ "_client") (Client.client o appName s) where
  module_eq := by
    simp only [Client.client, Options.document, Options.moduleName, String.append_assoc]
  isSnake_package := by decide
  isSnake_file := (isSnake_snake s.name).append (by decide)

theorem addType_asksForWords {i : Imports} (h : i.AsksForWords) (x : Option Shape) :
    (addType x i).AsksForWords := by
  cases x with
  | none => exact h
  | some s => exact h.addRelative _ _ _

theorem foldl_asksForWords {step : Imports → Operation → Imports}
    (hstep : ∀ i op, Imports.AsksForWords i → (step i op).AsksForWords) {i : Imports}
    (h : i.AsksForWords) (ops : List Operation) : (ops.foldl step i).AsksForWords := by
  induction ops generalizing i with
  | nil => exact h
  | cons op ops ih => exact ih (hstep i op h)

theorem addTypes_asksForWords {i : Imports} (h : i.AsksForWords) (s : Service) :
    (addTypes s i).AsksForWords :=
  foldl_asksForWords
    (fun _ _ hi => addType_asksForWords (addType_asksForWords hi _) _) h s.operations

theorem IsModule.render_isOk {o : Options} {package file : String} {d : Document}
    (hd : IsModule o package file d) (hne : package ≠ "") (hb : isModuleName o.baseModule)
    {dir : String} (hdir : o.outputDir = .str dir) (hi : d.imports.AsksForWords)
    (hlate : d.lateImports.AsksForWords) : ∃ a, o.render d = .ok a := by
  obtain ⟨ls, hls⟩ := hi.lines_isOk
  obtain ⟨late, hlate⟩ := hlate.lines_isOk
  obtain ⟨text, htext⟩ := Document.render_isOk hls hlate
  have hpath := o.path_eq hb hdir hd.isSnake_package hne hd.isSnake_file
  rw [← hd.module_eq] at hpath
  exact ⟨_, Outcome.bind_eq_ok.mpr ⟨_, hpath, Outcome.bind_eq_ok.mpr ⟨text, htext, rfl⟩⟩⟩

theorem contract_asksForWords (o : Options) (s : Service) :
    (Server.contract o s).imports.AsksForWords := by
  apply addTypes_asksForWords
  refine Imports.AsksForWords.add (Imports.AsksForWords.add Imports.asksForWords_empty ?_ _) ?_ _
  all_goals decide

theorem handlers_asksForWords (o : Options) (shapes : List Shape) (appName : Value) (s : Service) :
    (Server.handlers o shapes appName s).imports.AsksForWords := by
  apply foldl_asksForWords fun _ _ hi => addType_asksForWords hi _
  apply Imports.AsksForWords.addRelative
  iterate 6 refine Imports.AsksForWords.add ?_ (by decide) _
  exact Imports.asksForWords_empty

theorem routes_asksForWords (o : Options) (s : Service) :
    (Server.routes o s).imports.AsksForWords := by
  apply Imports.AsksForWords.addRelative
  apply Imports.AsksForWords.addRelative
  iterate 2 refine Imports.AsksForWords.add ?_ (by decide) _
  exact Imports.asksForWords_empty

theorem client_asksForWords (o : Options) (appName : String) (s : Service) :
    (Client.client o appName s).imports.AsksForWords := by
  apply addTypes_asksForWords
  iterate 5 refine Imports.AsksForWords.add ?_ (by decide) _
  exact Imports.asksForWords_empty

section Rendering

variable {m : Model} {o : Options} {dir : String}

theorem Server.artifacts_isOk (hb : isModuleName o.baseModule) (hdir : o.outputDir = .str dir)
    (happ : o.appName.truthy = true) : ∃ as, Server.artifacts m o = .ok as := by
  unfold Server.artifacts
  split
  · exact ⟨[], rfl⟩
  · next s hs =>
    have hrender : ∀ {d : Document} {ending : String}, d.module = Server.moduleName o s ending →
        IsSnake ending → d.imports.AsksForWords → d.lateImports = {} → ∃ a, o.render d = .ok a := by
      intro d ending hd he hi hlate
      exact (isModule_server hd he).render_isOk (by decide) hb hdir hi
        (by rw [hlate]; exact Imports.asksForWords_empty)
    have hrequire : o.requireAppName = .ok o.appName := by rw [Options.requireAppName, if_pos happ]
    refine Outcome.bind_isOk ⟨o.appName, hrequire⟩ fun appName => ?_
    refine Outcome.bind_isOk (hrender rfl (by decide) (contract_asksForWords o s) rfl) fun a => ?_
    refine Outcome.bind_isOk
      (hrender rfl (by decide) (handlers_asksForWords o m.shapes appName s) rfl) fun a' => ?_
    refine Outcome.bind_isOk (hrender rfl (by decide) (routes_asksForWords o s) rfl) fun a'' => ?_
    exact ⟨_, rfl⟩

theorem Client.artifacts_isOk (hb : isModuleName o.baseModule) (hdir : o.outputDir = .str dir)
    {appName : String} (happ : o.appName = .str appName) (hne : appName ≠ "") :
    ∃ as, Client.artifacts m o = .ok as := by
  unfold Client.artifacts
  split
  · exact ⟨[], rfl⟩
  · next s hs =>
    have hrequire : o.requireAppName = .ok (.str appName) := by
      rw [Options.requireAppName, happ, if_pos (by simpa [Value.truthy] using hne)]
    obtain ⟨a, ha⟩ := isModule_client.render_isOk (by decide) hb hdir
      (client_asksForWords o appName s) Imports.asksForWords_empty
    exact ⟨[a], Outcome.bind_eq_ok.mpr ⟨_, hrequire, Outcome.bind_eq_ok.mpr ⟨a, ha, rfl⟩⟩⟩

end Rendering

end Emit

theorem Part.artifacts_isOk {m : Model} {o : Emit.Options} {p : Part} {dir : String}
    (hb : isModuleName o.baseModule) (hdir : o.outputDir = .str dir)
    (happ : o.appName = .null ∨ ∃ name, o.appName = .str name)
    (h : p = .types ∨ m.service.isSome = false ∨ o.appName.truthy = true) :
    ∃ as, p.artifacts m o = .ok as := by
  by_cases hp : p = .types
  · subst hp
    exact Emit.Types.artifacts_isOk hb hdir
  rcases h.resolve_left hp with hservice | htruthy
  · exact ⟨[], artifacts_of_none (by simpa using hservice) o hp⟩
  cases p with
  | types => exact absurd rfl hp
  | server => exact Emit.Server.artifacts_isOk hb hdir htruthy
  | client =>
    rcases happ with hnull | ⟨name, hname⟩
    · rw [hnull] at htruthy
      cases htruthy
    · refine Emit.Client.artifacts_isOk hb hdir hname ?_
      rw [hname] at htruthy
      simpa [Value.truthy] using htruthy

end SmithyGen
