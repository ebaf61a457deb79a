import SmithyGen.Proofs.FilePath
import SmithyGen.Proofs.Package

namespace SmithyGen

namespace FilePath

theorem components_append (root : String) (parts more : List String) :
    components ⟨root, parts ++ more⟩ = components ⟨root, parts⟩ ++ more := by
  unfold components
  split_ifs <;> simp

/-- A component that does not lead back. -/
structure IsForward (s : String) : Prop extends IsComponent s where
  ne_back : s ≠ ".."

end FilePath

theorem Text.isForward_of_isIdentifier {cs : List Char} (h : isIdentifier cs) :
    FilePath.IsForward (String.ofList cs) where
  toIsComponent := isComponent_of_isIdentifier h
  ne_back he := by
    rw [String.ofList_eq] at he
    subst he
    exact absurd h (by decide)

namespace Emit

open FilePath

theorem IsSnake.isForward {s : String} (h : IsSnake s) (hne : s ≠ "") : IsForward s where
  toIsComponent := h.isComponent hne
  ne_back := by
    rintro rfl
    exact absurd h (by decide)

theorem IsSnake.isForward_py {s : String} (h : IsSnake s) : IsForward (s ++ ".py") where
  toIsComponent := h.isComponent_py
  ne_back he := by
    have hlast := congrArg (fun t => t.toList.getLast?) he
    simp [String.toList_append] at hlast

/-- The packages of a generated package. -/
def packages : List String := ["types", "server", "client"]

/-- What follows the directory of the base module in a path: the file of the types as one module, or
one of the packages and a file with a name in snake case. -/
inductive IsPackageFile : List String → Prop
  | types : IsPackageFile ["types.py"]
  | module {package name : String} (hpackage : package ∈ packages) (hname : IsSnake name)
      (hne : name ≠ "") : IsPackageFile [package, name ++ ".py"]

theorem IsPackageFile.isForward {file : List String} (h : IsPackageFile file) :
    ∀ part ∈ file, IsForward part := by
  cases h with
  | types =>
    intro part hpart
    rw [List.mem_singleton.mp hpart]
    exact (by decide : IsSnake "types").isForward_py
  | module hpackage hname _ =>
    intro part hpart
    rcases List.mem_cons.mp hpart with rfl | hpart
    · have hall : ∀ p ∈ packages, IsSnake p ∧ p ≠ "" := by decide
      exact (hall part hpackage).1.isForward (hall part hpackage).2
    · rw [List.mem_singleton.mp hpart]
      exact hname.isForward_py

theorem Options.isForward_of_mem_baseParts {o : Options} (hb : isModuleName o.baseModule)
    {part : String} (h : part ∈ o.baseParts) : IsForward part := by
  obtain ⟨cs, hcs, rfl⟩ := List.mem_map.mp h
  exact Text.isForward_of_isIdentifier (List.all_eq_true.mp hb cs hcs)

theorem isPackageFile_moduleParts {package file : String} (hpackage : package ∈ packages)
    (hfile : IsSnake file) (hne : file ≠ "") : IsPackageFile (moduleParts package file) := by
  rw [moduleParts, if_neg hne]
  exact .module hpackage hfile hne

theorem isPackageFile_types (name : String) :
    IsPackageFile (moduleParts "types" (Naming.snake name)) := by
  by_cases hne : Naming.snake name = ""
  · rw [hne]
    exact .types
  · exact isPackageFile_moduleParts (by decide) (isSnake_snake name) hne

theorem Server.isModule_of_mem {m : Model} {o : Options} {ds : List Document}
    (h : Server.documents m o = .ok ds) {d : Document} (hd : d ∈ ds) :
    ∃ file, IsModule o "server" file d ∧ file ≠ "" := by
  unfold Server.documents at h
  split at h
  next =>
    obtain rfl := Except.ok.inj h
    simp at hd
  next s _ =>
    have hmodule : ∀ ending, IsSnake ending → ending ≠ "" →
        d.module = Server.moduleName o s ending → ∃ file, IsModule o "server" file d ∧ file ≠ "" :=
      fun ending hending hne hmodule => ⟨_, isModule_server hmodule hending,
        fun he => hne (String.append_eq_empty_iff.mp he).2⟩
    obtain ⟨appName, -, h⟩ := Outcome.bind_eq_ok.mp h
    obtain rfl := Except.ok.inj h
    simp only [List.mem_cons, List.not_mem_nil, or_false] at hd
    rcases hd with rfl | rfl | rfl
    · exact hmodule "contract" (by decide) (by decide) rfl
    · exact hmodule "handlers" (by decide) (by decide) rfl
    · exact hmodule "routes" (by decide) (by decide) rfl

theorem Client.isModule_of_mem {m : Model} {o : Options} {ds : List Document}
    (h : Client.documents m o = .ok ds) {d : Document} (hd : d ∈ ds) :
    ∃ file, IsModule o "client" file d ∧ file ≠ "" := by
  unfold Client.documents at h
  split at h
  next =>
    obtain rfl := Except.ok.inj h
    simp at hd
  next s _ =>
    obtain ⟨appName, -, h⟩ := Outcome.bind_eq_ok.mp h
    split at h
    next name =>
      obtain rfl := Except.ok.inj h
      obtain rfl := List.mem_singleton.mp hd
      exact ⟨_, isModule_client, fun he => absurd (String.append_eq_empty_iff.mp he).2 (by decide)⟩
    next => cases h

theorem IsModule.components {o : Options} {package file : String} {d : Document}
    (hd : IsModule o package file d) (hb : isModuleName o.baseModule)
    (hfile : IsPackageFile (moduleParts package file)) (hne : package ≠ "") {a : Artifact}
    (h : o.render d = .ok a) :
    ∃ dir, o.outputDir = .str dir ∧ (ofString a.path).components
      = (ofString dir).components ++ o.baseParts ++ moduleParts package file := by
  have hpath := o.path_of_render h
  rw [hd.module_eq] at hpath
  unfold Options.path at hpath
  split at hpath
  next dir hdir =>
    rw [ofModule?_module hb dir hd.isSnake_package hne hd.isSnake_file] at hpath
    have hparts : ∀ part ∈ (ofString dir).parts ++ (o.baseParts ++ moduleParts package file),
        IsComponent part := by
      intro part hpart
      rcases List.mem_append.mp hpart with hpart | hpart
      · exact isComponent_of_mem_parts hpart
      rcases List.mem_append.mp hpart with hpart | hpart
      · exact Options.isComponent_of_mem_baseParts hb hpart
      · exact (hfile.isForward part hpart).toIsComponent
    refine ⟨dir, hdir, ?_⟩
    rw [← Except.ok.inj hpath, ofString_toString (root_ofString dir) hparts
      (by simp [o.baseParts_ne_nil]), components_append, List.append_assoc]
  next => cases hpath

end Emit

open Emit

/-- Every artifact of a part is rendered from a module of one of the packages. -/
theorem Part.exists_module {m : Model} {o : Options} {p : Part} {as : List Artifact}
    (h : p.artifacts m o = .ok as) {a : Artifact} (ha : a ∈ as) :
    ∃ package file d, package ∈ packages ∧ IsModule o package file d
      ∧ IsPackageFile (moduleParts package file) ∧ o.render d = .ok a := by
  cases p with
  | types =>
    obtain ⟨ds, hds, hrender⟩ := Types.documents_of_artifacts h
    obtain ⟨d, hd, hda⟩ := Outcome.exists_mem_of_mapM_eq_ok hrender ha
    obtain ⟨s, -, hsd⟩ := Outcome.exists_mem_of_mapM_eq_ok hds hd
    exact ⟨_, _, d, by decide, isModule_type hsd, isPackageFile_types s.name, hda⟩
  | server =>
    obtain ⟨ds, hds, hrender⟩ := Server.documents_of_artifacts h
    obtain ⟨d, hd, hda⟩ := Outcome.exists_mem_of_mapM_eq_ok hrender ha
    obtain ⟨file, hmodule, hne⟩ := Server.isModule_of_mem hds hd
    exact ⟨_, _, d, by decide, hmodule,
      isPackageFile_moduleParts (by decide) hmodule.isSnake_file hne, hda⟩
  | client =>
    obtain ⟨ds, hds, hrender⟩ := Client.documents_of_artifacts h
    obtain ⟨d, hd, hda⟩ := Outcome.exists_mem_of_mapM_eq_ok hrender ha
    obtain ⟨file, hmodule, hne⟩ := Client.isModule_of_mem hds hd
    exact ⟨_, _, d, by decide, hmodule,
      isPackageFile_moduleParts (by decide) hmodule.isSnake_file hne, hda⟩

/-- No artifact leaves the directory of its package. Whatever the names in the model, its path has
the components of the output directory, then the parts of the base module, then a file of the
package; and nothing after the output directory leads back. -/
theorem Part.artifact_contained {m : Model} {o : Options} {p : Part} {as : List Artifact}
    (hb : isModuleName o.baseModule) (h : p.artifacts m o = .ok as) {a : Artifact} (ha : a ∈ as) :
    ∃ dir file, o.outputDir = .str dir ∧ IsPackageFile file
      ∧ (FilePath.ofString a.path).components
        = (FilePath.ofString dir).components ++ o.baseParts ++ file
      ∧ ".." ∉ o.baseParts ++ file := by
  obtain ⟨package, file, d, hpackage, hd, hfile, hrender⟩ := Part.exists_module h ha
  have hne : package ≠ "" := by
    rintro rfl
    exact absurd hpackage (by decide)
  obtain ⟨dir, hdir, hcomponents⟩ := hd.components hb hfile hne hrender
  refine ⟨dir, _, hdir, hfile, hcomponents, ?_⟩
  intro hback
  rcases List.mem_append.mp hback with hback | hback
  · exact (Options.isForward_of_mem_baseParts hb hback).ne_back rfl
  · exact (hfile.isForward _ hback).ne_back rfl

/-- Names that are paths themselves, one of them without a word. -/
def hostileIds : List String := ["a#../../etc/passwd", "a#/srv/keys", "a#.."]

theorem artifact_contained_hostile :
    let o : Options := ⟨"app.api", .str "/srv/../out", .null, true⟩
    ∃ m as, (Model.build .lenient (structuresDocument hostileIds)).result = .ok m
      ∧ Part.types.artifacts m o = .ok as
      ∧ as.map (·.path) = ["/srv/../out/app/api/types/etc_passwd.py",
        "/srv/../out/app/api/types/srv_keys.py", "/srv/../out/app/api/types.py"]
      ∧ ∀ a ∈ as, ∃ dir file, o.outputDir = .str dir ∧ IsPackageFile file
        ∧ (FilePath.ofString a.path).components
          = (FilePath.ofString dir).components ++ o.baseParts ++ file
        ∧ ".." ∉ o.baseParts ++ file := by
  intro o
  have hb : isModuleName o.baseModule := by decide
  obtain ⟨as, has⟩ : ∃ as, Part.types.artifacts (structuresModel "a" hostileIds) o = .ok as :=
    Types.artifacts_isOk hb rfl
  refine ⟨_, as, rfl, has, ?_, fun a ha => Part.artifact_contained hb has ha⟩
  rw [Types.artifacts_path hb has]
  decide

end SmithyGen
