import SmithyGen.Load
import SmithyGen.Proofs.FileTree
import SmithyGen.Proofs.Idl.Faults

namespace SmithyGen

open Logged

namespace Idl

def IsUnreadable (e : Fault) : Prop := ∃ fault, e = .unreadable fault

theorem add_faultsIn (policy : RequiredPolicy) (file ns : String) (p : Progress)
    (d : Declaration) : (p.add policy file ns d).FaultsIn IsUnreadable := by
  unfold Progress.add
  split
  · exact faultsIn_of_isOk ⟨_, rfl⟩
  · simp only
    split
    · exact faultsIn_of_isOk ⟨p, rfl⟩
    · split
      · exact faultsIn_of_isOk ⟨_, rfl⟩
      next cause _ =>
        intro e he
        obtain rfl := Except.error.inj he
        exact ⟨⟨file, cause⟩, rfl⟩

theorem addAll_faultsIn (policy : RequiredPolicy) (file ns : String) (ds : List Declaration)
    (p : Progress) : (addAll policy file ns ds p).FaultsIn IsUnreadable := by
  induction ds generalizing p with
  | nil => exact faultsIn_of_isOk ⟨p, rfl⟩
  | cons d ds ih => exact (add_faultsIn policy file ns p d).bind fun p' _ => ih p'

theorem read_faultsIn (policy : RequiredPolicy) (file text : String) :
    (read policy file text).FaultsIn IsUnreadable := by
  have hnamespace : ∀ cs, (namespaceOf file cs).FaultsIn IsUnreadable := by
    intro cs
    unfold namespaceOf
    split <;> exact faultsIn_of_isOk ⟨_, rfl⟩
  refine (hnamespace _).bind fun ns _ => (addAll_faultsIn policy file ns _ _).bind fun p _ => ?_
  exact faultsIn_of_isOk ⟨_, rfl⟩

end Idl

namespace Interchange

theorem merge_isOk (file : String) (a : Idl.Ast) :
    ∃ v d, (merge [(file, a.toValue)]).result = .ok v ∧ check v = .ok d := by
  obtain ⟨u, hu, hshapes⟩ := addShapes_isOk file a.raw ⟨[], [], []⟩
  have hmaps : checkShapes u.shapes = .ok () := by
    rw [checkShapes_eq_ok_iff, hshapes]
    intro entry hentry
    exact checkShapes_eq_ok_iff.mp a.checkShapes_raw entry (Entries.mem_of_mem_ofList hentry)
  have hfile : (Union.addFile file a.toValue ⟨[], [], []⟩).result
      = .ok { u with metadata := u.metadata.insert "namespace" (.str a.ns) } := by
    refine Outcome.result_bind_eq_ok.mpr ⟨.map a.raw, rfl, ?_⟩
    exact Outcome.result_bind_eq_ok.mpr ⟨u, hu, rfl⟩
  have hfiles : (Union.addFiles [(file, a.toValue)] ⟨[], [], []⟩).result
      = .ok { u with metadata := u.metadata.insert "namespace" (.str a.ns) } :=
    Outcome.result_bind_eq_ok.mpr ⟨_, hfile, rfl⟩
  exact ⟨_, _, Outcome.result_bind_eq_ok.mpr ⟨_, hfiles, rfl⟩, check_union hmaps (.str "2.0") _⟩

end Interchange

namespace Loader

/-- How loading a file may end: with a document, or with a reported fault that goes with the kind of
the file. -/
def EndsWell (source : FilePath) : Except Fault Value → Prop
  | .ok v => ∃ d, Interchange.check v = .ok d
  | .error e => e.isReported = true ∧
      if source.suffix = ".json" then ∃ cause origin, e = .document cause origin
      else ∃ faults, e = .unreadableFiles faults

variable {l : Loader} {t : FileTree} {source : FilePath} {bytes : List UInt8}

theorem readText_faultsIn (l : Loader) (t : FileTree) (p : FilePath) :
    (l.readText t p).FaultsIn Idl.IsUnreadable := by
  unfold readText
  split
  next text _ => exact Idl.read_faultsIn l.policy p.toString text
  next cause _ =>
    intro e he
    obtain rfl := Except.error.inj he
    exact ⟨⟨p.toString, cause⟩, rfl⟩

/-- A text is loaded, or it is the one file that cannot be read. -/
theorem loadFiles_endsWell (l : Loader) (t : FileTree) (hnull : source.hasNull = false)
    (hsuffix : source.suffix ≠ ".json") :
    EndsWell source (l.loadFiles t [source]).result := by
  have hreads := readText_faultsIn l t source
  have husable : [source].takeWhile (!·.hasNull) = [source] := by simp [hnull]
  cases hread : (l.readText t source).result with
  | ok a =>
    have hbatch : Batch.add l t {} source
        = ⟨(l.readText t source).notices, [(source.toString, a.toValue)], []⟩ := by
      simp [Batch.add, hread]
    obtain ⟨v, d, hv, hd⟩ := Interchange.merge_isOk source.toString a
    have hload : (l.loadFiles t [source]).result = .ok v := by
      simp only [loadFiles, husable, List.foldl_cons, List.foldl_nil, hbatch]
      rw [Outcome.result_bind_of_ok (Outcome.result_forM_note _)]
      exact hv
    rw [hload]
    exact ⟨d, hd⟩
  | error e =>
    obtain ⟨fault, rfl⟩ := hreads e hread
    have hbatch : Batch.add l t {} source = ⟨(l.readText t source).notices, [], [fault]⟩ := by
      simp [Batch.add, hread]
    have hload : (l.loadFiles t [source]).result = .error (.unreadableFiles [fault]) := by
      simp only [loadFiles, husable, List.foldl_cons, List.foldl_nil, hbatch]
      rw [Outcome.result_bind_of_ok (Outcome.result_forM_note _)]
      rfl
    rw [hload]
    exact ⟨rfl, by rw [if_neg hsuffix]; exact ⟨_, rfl⟩⟩

theorem endsWell_document (hsuffix : source.suffix = ".json") (cause : DocumentCause)
    (origin : Option String) : EndsWell source (.error (.document cause origin)) :=
  ⟨rfl, by rw [if_pos hsuffix]; exact ⟨cause, origin, rfl⟩⟩

theorem ofText_endsWell (hsuffix : source.suffix = ".json") (text : String)
    (origin : Option String) :
    EndsWell source (Interchange.ofText text origin >>= fun d => pure d.toValue).result := by
  cases hdecode : Json.decode text with
  | error e =>
    simp only [Interchange.ofText, hdecode]
    exact endsWell_document hsuffix _ _
  | ok v =>
    simp only [Interchange.ofText, hdecode, Interchange.ofValue]
    cases hcheck : Interchange.check v with
    | error cause => exact endsWell_document hsuffix _ _
    | ok d => exact ⟨d, Interchange.check_toValue (Interchange.checkShapes_of_check hcheck)⟩

/-- Loading a file ends well, but for an interchange file whose bytes are no text: then the fault is
that of the bytes alone. -/
theorem load_file (h : t.find? source = .ok (some (.file bytes))) :
    (source.suffix = ".json" → ∃ text, Utf8.decode bytes = .ok text)
        ∧ EndsWell source (l.load t source).result
      ∨ source.suffix = ".json" ∧ ∃ fault, Utf8.decode bytes = .error fault
        ∧ (l.load t source).result = .error (.bytes fault) := by
  have hnode : (nodeAt t source).result = .ok (some (.file bytes)) := by
    rw [nodeAt, h]
    rfl
  -- what stands somewhere has a path without null characters
  obtain ⟨q, hplace, -⟩ := FileTree.find?_eq_some.mp h
  have hnull : source.hasNull = false := (FileTree.place_eq_ok.mp hplace).1.1
  have hload : (l.load t source).result
      = if source.suffix = ".json" then
          (importFile t source >>= fun d => pure d.toValue).result
        else (l.loadFiles t [source]).result := by
    rw [load, Outcome.result_bind_of_ok hnode]
    by_cases hjson : source.suffix = ".json"
    · simp [hjson]
    · simp [hjson]
  by_cases hsuffix : source.suffix = ".json"
  · rw [hload, if_pos hsuffix]
    simp only [importFile, hnull, FileTree.read_of_find? h]
    -- unlike those of a model text, these bytes are decoded outside of what is reported
    cases hdecode : Utf8.decode bytes with
    | error fault => exact Or.inr ⟨hsuffix, fault, rfl, rfl⟩
    | ok text => exact Or.inl ⟨fun _ => ⟨text, rfl⟩, ofText_endsWell hsuffix text _⟩
  · rw [hload, if_neg hsuffix]
    exact Or.inl ⟨fun hjson => absurd hjson hsuffix, loadFiles_endsWell l t hnull hsuffix⟩

def strayByteTree (name : String) : FileTree := ⟨[([name], .file [0xff])], []⟩

theorem load_file_strayByte :
    (strayByteTree "m.smithy").find? (FilePath.ofString "m.smithy")
        = .ok (some (.file [0xff]))
      ∧ EndsWell (FilePath.ofString "m.smithy")
        ((ofSettings {}).load (strayByteTree "m.smithy")
          (FilePath.ofString "m.smithy")).result := by
  have hfile : (strayByteTree "m.smithy").find? (FilePath.ofString "m.smithy")
      = .ok (some (.file [0xff])) := by decide
  have hsuffix : (FilePath.ofString "m.smithy").suffix ≠ ".json" := by decide
  rcases load_file (l := ofSettings {}) hfile with ⟨-, hends⟩ | ⟨hjson, -⟩
  · exact ⟨hfile, hends⟩
  · exact absurd hjson hsuffix

/-- A stray byte in an interchange file leads to a fault that is not reported. -/
theorem load_file_strayByte_json :
    (strayByteTree "m.json").find? (FilePath.ofString "m.json") = .ok (some (.file [0xff]))
      ∧ ((ofSettings {}).load (strayByteTree "m.json") (FilePath.ofString "m.json")).result
        = .error (.bytes ⟨0, 1, 0xff, .startByte⟩)
      ∧ Fault.isReported (.bytes ⟨0, 1, 0xff, .startByte⟩) = false := by
  refine ⟨by decide, ?_, rfl⟩
  rw [← Logged.fault?_eq_some]
  decide +kernel

end Loader

end SmithyGen
