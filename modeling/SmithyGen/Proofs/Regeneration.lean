import SmithyGen.Proofs.Writing

namespace SmithyGen

open FileTree

variable {t t' : FileTree}

section Looking

/-- Short enough for a file tree: the path as a whole, and every name in it. -/
def FilePath.IsShort (p : FilePath) : Prop :=
  p.toString.utf8ByteSize < pathLimit ∧ ∀ name ∈ p.parts, name.utf8ByteSize ≤ nameLimit

namespace FileTree

theorem walk_eq_error {p : Place} {names : List String} {r : Refusal}
    (h : t.walk p names = .error r) :
    r = .notFound ∨ r = .notDirectory
      ∨ r = .nameTooLong ∧ ∃ name ∈ names, nameLimit < name.utf8ByteSize := by
  induction names generalizing p with
  | nil => cases h
  | cons name names ih =>
    rw [walk, List.foldlM_cons, Outcome.bind_eq_error] at h
    rcases h with h | ⟨d, -, h⟩
    · unfold step at h
      split at h
      next =>
        split_ifs at h with hname
        obtain rfl := Except.error.inj h
        exact Or.inr (Or.inr ⟨rfl, name, by simp, hname⟩)
      next =>
        obtain rfl := Except.error.inj h
        exact Or.inr (Or.inl rfl)
      next =>
        obtain rfl := Except.error.inj h
        exact Or.inl rfl
    · refine (ih h).imp_right (Or.imp_right (And.imp_right ?_))
      rintro ⟨other, hother, hlong⟩
      exact ⟨other, List.mem_cons_of_mem _ hother, hlong⟩

theorem find?_eq_error {p : FilePath} {r : Refusal} (h : t.find? p = .error r) :
    r = .nameTooLong ∧ ¬p.IsShort := by
  unfold find? at h
  split at h
  next => cases h
  next => cases h
  next => cases h
  next r' hmissing hblocked hstatus =>
    obtain rfl := Except.error.inj h
    unfold status at hstatus
    rcases Outcome.bind_eq_error.mp hstatus with hplace | ⟨q, -, hnode⟩
    · unfold place at hplace
      split_ifs at hplace with hnull hlength
      · exact absurd (Except.error.inj hplace).symm hmissing
      · rcases walk_eq_error hplace with rfl | rfl | ⟨rfl, name, hname, hlong⟩
        · exact absurd rfl hmissing
        · exact absurd rfl hblocked
        · exact ⟨rfl, fun hshort => absurd (hshort.2 name hname) (by omega)⟩
      · obtain rfl := Except.error.inj hplace
        exact ⟨rfl, fun hshort => hlength hshort.1⟩
    · split at hnode
      next => cases hnode
      next => exact absurd (Except.error.inj hnode).symm hmissing

/-- Something stands where the path leads. -/
def Finds (t : FileTree) (p : FilePath) : Prop := ∃ n, t.find? p = .ok (some n)

theorem Change.finds {made written : Place → Prop} (h : Change made written t t') {p : FilePath}
    (hp : t.Finds p) : t'.Finds p := by
  obtain ⟨n, hn⟩ := hp
  obtain ⟨q, hq, hnode⟩ := find?_eq_some.mp hn
  have hplace := h.place hq
  rcases h.node? q with hsame | ⟨-, -, hdir⟩ | ⟨-, -, bytes, hfile⟩
  · exact ⟨n, find?_eq_some.mpr ⟨q, hplace, hsame.trans hnode⟩⟩
  · exact ⟨.directory, find?_eq_some.mpr ⟨q, hplace, hdir⟩⟩
  · exact ⟨.file bytes, find?_eq_some.mpr ⟨q, hplace, hfile⟩⟩

/-- Some places of a tree were given directories and files, and none was taken away. -/
abbrev Grows (t t' : FileTree) : Prop := Change (fun _ => True) (fun _ => True) t t'

end FileTree

end Looking

namespace Writer

variable {w : Writer} {o : OutputSettings} {a : Artifact} {as : List Artifact}

section Single

theorem save_ending {existed : Bool} {s content : String} {result : Except Fault WriteResult}
    (h : (w.save o existed (.ofString s) content).outcome t = (t', result)) :
    let p := FilePath.ofString s
    Grows t t' ∧ ((∃ e, result = .error e ∧ IsSaveFault p e)
      ∨ ∃ r, result = .ok r ∧ r.path = p.toString ∧ t'.Finds p) := by
  intro p
  obtain ⟨t₁, hprepared, hend⟩ := save_cases h
  have hgrows : Grows t t₁ := Change.mono hprepared (fun _ _ => trivial) fun _ _ => trivial
  rcases hend with ⟨rfl, e, rfl, he⟩ | ⟨q, r, hq, hnode, rfl, rfl, ⟨hpath, -⟩, -⟩
  · exact ⟨hgrows, Or.inl ⟨e, rfl, he⟩⟩
  · have hfile : Grows t₁ (t₁.put q (.file (Utf8.encode content))) :=
      (Change.put_file hq hnode _).mono (fun _ => id) fun _ _ => trivial
    exact ⟨hgrows.trans hfile, Or.inr ⟨r, rfl, hpath, _, find?_eq_some.mpr
      ⟨q, hfile.place hq, node?_put_self t₁ _ (ne_nil_of_node?_ne hnode)⟩⟩⟩

/-- How writing an artifact ends. Its path cannot be looked up; or it fails to be saved; or there is
something at its path. -/
theorem write_ending (hw : w.output = some o) {result : Except Fault WriteResult}
    (h : (w.write a).outcome t = (t', result)) :
    let p := FilePath.ofString a.path
    (∃ r, t.find? p = .error r ∧ t' = t ∧ result = .error (.fileSystem r))
      ∨ Grows t t' ∧ ((∃ e, result = .error e ∧ IsSaveFault p e)
        ∨ ∃ r, result = .ok r ∧ r.path = p.toString ∧ t'.Finds p) := by
  intro p
  rcases write_cases hw h with hlost | ⟨hfound, rfl, rfl | rfl⟩ | ⟨found, -, -, hsave⟩
  · exact Or.inl hlost
  · exact Or.inr ⟨Change.refl .., Or.inr ⟨_, rfl, rfl, hfound⟩⟩
  · exact Or.inr ⟨Change.refl .., Or.inl ⟨_, rfl, Or.inl ⟨.exists, rfl⟩⟩⟩
  · exact Or.inr (save_ending hsave)

theorem write_ok (hw : w.output = some o) {r : WriteResult}
    (h : (w.write a).outcome t = (t', .ok r)) :
    Grows t t' ∧ r.path = (FilePath.ofString a.path).toString ∧ t'.Finds (.ofString a.path) := by
  rcases write_ending hw h with ⟨_, -, -, he⟩ | ⟨hgrows, ⟨_, he, -⟩ | ⟨_, hr, hpath, hfinds⟩⟩
  · cases he
  · cases he
  · obtain rfl := Except.ok.inj hr
    exact ⟨hgrows, hpath, hfinds⟩

theorem write_refused (hw : w.output = some o) {fault : WriteFault}
    (h : (w.write a).outcome t = (t', .error (.write fault))) :
    Grows t t' ∧ fault.path = (FilePath.ofString a.path).toString := by
  rcases write_ending hw h with ⟨_, -, -, he⟩ | ⟨hgrows, ⟨_, he, hfault⟩ | ⟨_, hr, -⟩⟩
  · cases he
  · obtain rfl := Except.error.inj he
    rcases hfault with ⟨cause, hcause⟩ | ⟨hcause, -⟩
    · obtain rfl := Fault.write.inj hcause
      exact ⟨hgrows, rfl⟩
    · cases hcause
  · cases hr

end Single

section Batch

/-- The entry of an artifact in a report: a result, or a failure under the path asked for. -/
abbrev Entry := WriteResult ⊕ (String × WriteFault)

/-- The report with given entries. -/
def Report.ofEntries (entries : List Entry) : Report :=
  ⟨entries.filterMap Sum.getLeft?, entries.filterMap Sum.getRight?⟩

namespace Report

@[simp] theorem ofEntries_nil : ofEntries [] = {} := rfl

@[simp] theorem ofEntries_inl (r : WriteResult) (entries : List Entry) :
    ofEntries (.inl r :: entries)
      = ⟨r :: (ofEntries entries).results, (ofEntries entries).failures⟩ := rfl

@[simp] theorem ofEntries_inr (f : String × WriteFault) (entries : List Entry) :
    ofEntries (.inr f :: entries)
      = ⟨(ofEntries entries).results, f :: (ofEntries entries).failures⟩ := rfl

end Report

/-- The entry tells of the artifact. -/
def IsEntry (a : Artifact) : Entry → Prop
  | .inl r => r.path = (FilePath.ofString a.path).toString
  | .inr (path, fault) => path = a.path ∧ fault.path = (FilePath.ofString a.path).toString

/-- The artifacts are written one after another, each on the tree that those before it left, and
each gives the entry in its place. -/
inductive Runs (w : Writer) : FileTree → List Artifact → List Entry → FileTree → Prop
  | nil (t : FileTree) : Runs w t [] [] t
  | written {t t₁ t' : FileTree} {a : Artifact} {as : List Artifact} {entries : List Entry}
      {r : WriteResult} (h : (w.write a).outcome t = (t₁, .ok r))
      (hrest : Runs w t₁ as entries t') : Runs w t (a :: as) (.inl r :: entries) t'
  | refused {t t₁ t' : FileTree} {a : Artifact} {as : List Artifact} {entries : List Entry}
      {fault : WriteFault} (h : (w.write a).outcome t = (t₁, .error (.write fault)))
      (hrest : Runs w t₁ as entries t') :
      Runs w t (a :: as) (.inr (a.path, fault) :: entries) t'

variable {entries : List Entry}

theorem Runs.isEntry (hw : w.output = some o) (h : w.Runs t as entries t') :
    List.Forall₂ IsEntry as entries := by
  induction h with
  | nil => exact .nil
  | written h _ ih => exact .cons (write_ok hw h).2.1 ih
  | refused h _ ih => exact .cons ⟨rfl, (write_refused hw h).2⟩ ih

theorem Runs.grows (hw : w.output = some o) (h : w.Runs t as entries t') : Grows t t' := by
  induction h with
  | nil => exact Change.refl ..
  | written h _ ih => exact (write_ok hw h).1.trans ih
  | refused h _ ih => exact (write_refused hw h).1.trans ih

/-- After a run without failures every artifact is there: what one write left, the later ones do not
take away. -/
theorem Runs.finds (hw : w.output = some o) (h : w.Runs t as entries t')
    (hok : (Report.ofEntries entries).failures = []) :
    ∀ a ∈ as, t'.Finds (.ofString a.path) := by
  induction h with
  | nil => simp
  | written h hrest ih =>
    intro b hb
    rcases List.mem_cons.mp hb with rfl | hb
    · exact (hrest.grows hw).finds (write_ok hw h).2.2
    · exact ih (by simpa using hok) b hb
  | refused => simp at hok

@[simp] theorem outcome_writeEach_nil (w : Writer) (r : Report) (t : FileTree) :
    (w.writeEach [] r).outcome t = (t, .ok r) := rfl

theorem outcome_writeEach_cons (w : Writer) (a : Artifact) (as : List Artifact) (r : Report)
    (t : FileTree) :
    (w.writeEach (a :: as) r).outcome t = match (w.write a).outcome t with
      | (t₁, .ok result) =>
        (w.writeEach as { r with results := r.results ++ [result] }).outcome t₁
      | (t₁, .error (.write fault)) =>
        (w.writeEach as { r with failures := r.failures ++ [(a.path, fault)] }).outcome t₁
      | (t₁, .error e) => (t₁, .error e) := by
  unfold Session.outcome
  dsimp only [writeEach]
  split
  next h => simp [h]
  next h => simp [h]
  next hother h => simp only [h]

/-- Why a batch ends without a report: at a path that is too long, or at one with a null
character. -/
def IsBatchFault (as : List Artifact) (e : Fault) : Prop :=
  e = .fileSystem .nameTooLong ∧ (∃ a ∈ as, ¬(FilePath.ofString a.path).IsShort)
    ∨ e = .badValue .nullCharacter ∧ ∃ a ∈ as, (FilePath.ofString a.path).hasNull = true

theorem IsBatchFault.cons {e : Fault} (h : IsBatchFault as e) (a : Artifact) :
    IsBatchFault (a :: as) e := by
  rcases h with ⟨rfl, b, hb, hlong⟩ | ⟨rfl, b, hb, hnull⟩
  · exact Or.inl ⟨rfl, b, List.mem_cons_of_mem _ hb, hlong⟩
  · exact Or.inr ⟨rfl, b, List.mem_cons_of_mem _ hb, hnull⟩

/-- A batch ends with a report of all its artifacts, or at a path that no file can have. -/
theorem writeEach_cases (hw : w.output = some o) {r : Report} {result : Except Fault Report}
    (h : (w.writeEach as r).outcome t = (t', result)) :
    (∃ entries, w.Runs t as entries t' ∧ result = .ok ⟨
        r.results ++ (Report.ofEntries entries).results,
        r.failures ++ (Report.ofEntries entries).failures⟩)
      ∨ ∃ e, result = .error e ∧ IsBatchFault as e := by
  induction as generalizing r t with
  | nil =>
    rw [outcome_writeEach_nil] at h
    obtain ⟨rfl, rfl⟩ := Prod.mk.inj h
    exact Or.inl ⟨[], .nil t, by simp⟩
  | cons a as ih =>
    rw [outcome_writeEach_cons] at h
    obtain ⟨t₁, ending, hwrite⟩ : ∃ t₁ ending, (w.write a).outcome t = (t₁, ending) := ⟨_, _, rfl⟩
    have hlater : (∃ e, result = .error e ∧ IsBatchFault as e) →
        ∃ e, result = .error e ∧ IsBatchFault (a :: as) e :=
      fun ⟨e, hresult, he⟩ => ⟨e, hresult, he.cons a⟩
    rcases write_ending hw hwrite with
      ⟨e, hfind, rfl, rfl⟩ | ⟨-, ⟨e, rfl, ⟨cause, rfl⟩ | ⟨rfl, hnull⟩⟩ | ⟨r', rfl, -⟩⟩
    · obtain ⟨rfl, hlong⟩ := find?_eq_error hfind
      simp only [hwrite] at h
      exact Or.inr ⟨_, (Prod.mk.inj h).2.symm, Or.inl ⟨rfl, a, by simp, hlong⟩⟩
    · simp only [hwrite] at h
      refine (ih h).imp ?_ hlater
      rintro ⟨entries, hruns, hresult⟩
      exact ⟨_, .refused hwrite hruns, by simp [hresult]⟩
    · simp only [hwrite] at h
      exact Or.inr ⟨_, (Prod.mk.inj h).2.symm, Or.inr ⟨rfl, a, by simp, hnull⟩⟩
    · simp only [hwrite] at h
      refine (ih h).imp ?_ hlater
      rintro ⟨entries, hruns, hresult⟩
      exact ⟨_, .written hwrite hruns, by simp [hresult]⟩

theorem write_skips (hw : w.output = some o) (hmode : o.mode = .mode .skip)
    (h : t.Finds (.ofString a.path)) : (w.write a).outcome t = (t, .ok (skippedResult a)) := by
  obtain ⟨n, hn⟩ := h
  simp only [outcome_write hw, hn, hmode, Option.isSome_some]

theorem writeEach_skips (hw : w.output = some o) (hmode : o.mode = .mode .skip)
    (h : ∀ a ∈ as, t.Finds (.ofString a.path)) (r : Report) :
    (w.writeEach as r).outcome t
      = (t, .ok { r with results := r.results ++ as.map skippedResult }) := by
  induction as generalizing r with
  | nil => simp
  | cons a as ih =>
    rw [outcome_writeEach_cons, write_skips hw hmode (h a (by simp))]
    simp [ih fun b hb => h b (List.mem_cons_of_mem _ hb)]

theorem outcome_writeAll (w : Writer) (as : List Artifact) (t : FileTree) :
    (w.writeAll as).outcome t = (w.writeEach as {}).outcome t := rfl

theorem writeEach_cases_of_none (hw : w.output = none) {r : Report}
    {result : Except Fault Report} (h : (w.writeEach as r).outcome t = (t', result)) :
    as = [] ∧ t' = t ∧ result = .ok r ∨ result = .error .wrongType
      ∨ ∃ e, result = .error e ∧ IsBatchFault as e := by
  cases as with
  | nil =>
    rw [outcome_writeEach_nil] at h
    obtain ⟨rfl, rfl⟩ := Prod.mk.inj h
    exact Or.inl ⟨rfl, rfl, rfl⟩
  | cons a as =>
    right
    rw [outcome_writeEach_cons, outcome_write_of_none hw] at h
    cases hfind : t.find? (.ofString a.path) with
    | ok found =>
      simp only [hfind] at h
      exact Or.inl (Prod.mk.inj h).2.symm
    | error e =>
      obtain ⟨rfl, hlong⟩ := find?_eq_error hfind
      simp only [hfind] at h
      exact Or.inr ⟨_, (Prod.mk.inj h).2.symm, Or.inl ⟨rfl, a, by simp, hlong⟩⟩

/-- A batch has one entry for each artifact, a result or a failure, in its order. If there is no
failure, a batch that keeps files skips all the same artifacts and leaves the tree as it is. A batch
is left without a report only by a path that is too long or has a null character, or if there are no
output settings to write by. -/
theorem writeAll_again (w : Writer) (as : List Artifact) (t : FileTree) :
    let t' := (w.writeAll as t).1
    match (w.writeAll as t).2.result with
    | .ok report =>
      (∃ entries, w.Runs t as entries t' ∧ List.Forall₂ IsEntry as entries
        ∧ report = .ofEntries entries)
      ∧ (report.failures = [] → ∀ (w' : Writer) (o : OutputSettings), w'.output = some o → o.mode = .mode .skip →
        (w'.writeAll as).outcome t' = (t', .ok ⟨as.map skippedResult, []⟩))
    | .error e => e = .wrongType ∧ w.output = none ∨ IsBatchFault as e := by
  intro t'
  have h : (w.writeAll as).outcome t = (t', (w.writeAll as t).2.result) := rfl
  generalize t' = t', (w.writeAll as t).2.result = result at h ⊢
  rw [outcome_writeAll] at h
  cases hw : w.output with
  | none =>
    rcases writeEach_cases_of_none hw h with ⟨rfl, rfl, rfl⟩ | rfl | ⟨e, rfl, he⟩
    · exact ⟨⟨[], .nil _, .nil, rfl⟩, fun _ w' _ _ _ => by simp [outcome_writeAll]⟩
    · exact Or.inl ⟨rfl, rfl⟩
    · exact Or.inr he
  | some o =>
    rcases writeEach_cases hw h with ⟨entries, hruns, rfl⟩ | ⟨e, rfl, he⟩
    · refine ⟨⟨entries, hruns, hruns.isEntry hw, by simp⟩, ?_⟩
      intro hok w' o' hw' hmode
      have hfinds := hruns.finds hw (by simpa using hok)
      rw [outcome_writeAll, writeEach_skips hw' hmode hfinds]
      simp
    · exact Or.inr he

def longModulePath : FilePath := ⟨"", ["pkg", String.ofList (List.replicate 253 'a') ++ ".py"]⟩

def longModule : Artifact := { path := longModulePath.toString, content := "" }

def nullModule : Artifact := { path := "pkg/\x00.py", content := "" }

def blankModule : Artifact := { path := "pkg/n.py", content := "" }

/-- A name that is too long ends the batch without a report, and so does one with a null character.
The artifact after it, which can be written by itself, is not written. -/
theorem writeAll_stops_package :
    let w : Writer := ⟨some {}, none, fun _ => true⟩
    (w.writeAll [longModule, blankModule]).outcome packageTree
        = (packageTree, .error (.fileSystem .nameTooLong))
      ∧ (w.writeAll [nullModule, blankModule]).outcome packageTree
        = (packageTree, .error (.badValue .nullCharacter))
      ∧ ((w.writeAll [blankModule] packageTree).1).bytes? ["pkg", "n.py"] = some [] := by
  intro w
  have hname : FilePath.IsComponent (String.ofList (List.replicate 253 'a')) := by
    refine ⟨by decide +kernel, by decide +kernel, ?_⟩
    rw [String.toList_ofList, List.mem_replicate]
    exact fun h => absurd h.2 (by decide)
  have hpath : FilePath.ofString longModule.path = longModulePath :=
    FilePath.ofString_toString (by decide) (List.forall_mem_cons.mpr
      ⟨⟨by decide, by decide, by decide⟩,
        List.forall_mem_singleton.mpr (hname.append (by decide) (by decide))⟩)
      (List.cons_ne_nil _ _)
  have hlong : packageTree.find? longModulePath = .error .nameTooLong := by decide +kernel
  refine ⟨?_, rfl, by decide +kernel⟩
  rw [outcome_writeAll, outcome_writeEach_cons, outcome_write rfl, hpath, hlong]

end Batch

end Writer

end SmithyGen
