import SmithyGen.Proofs.Writing

namespace SmithyGen

section Configuration

/-- The settings in force keep the files that exist. -/
def Config.KeepsFiles (c : Config) : Prop :=
  ∀ o, c.output.effective? {} = some o → o.mode.isProtective = true

/-- The mode is left open, or is named and not that of overwriting. -/
def Config.NamesOtherMode (os : Entries Value) : Prop :=
  ∀ v, os.get? "mode" = some v → ∃ s, v = .str s ∧ s ≠ "force"

theorem ModeSetting.isProtective_of_name {s : String} {m : ModeSetting}
    (h : ModeSetting.ofValue (.str s) = .ok m) (hs : s ≠ "force") : m.isProtective = true := by
  simp only [ofValue] at h
  split at h
  next m' hname =>
    obtain rfl := Except.ok.inj h
    unfold OutputMode.ofName? at hname
    split at hname
    next => obtain rfl := Option.some.inj hname; rfl
    next => exact absurd rfl hs
    next => obtain rfl := Option.some.inj hname; rfl
    next => cases hname
  next => cases h

theorem OutputSettings.isProtective_of_ofEntries {os : Entries Value} {o : OutputSettings}
    (h : ofEntries os = .ok o) (hmode : Config.NamesOtherMode os) : o.mode.isProtective = true := by
  obtain ⟨m, hm, h⟩ := Outcome.bind_eq_ok.mp h
  obtain rfl := Except.ok.inj h
  cases hget : os.get? "mode" with
  | none =>
    rw [hget] at hm
    obtain rfl := Except.ok.inj hm
    rfl
  | some v =>
    obtain ⟨s, rfl, hs⟩ := hmode v hget
    rw [hget] at hm
    exact ModeSetting.isProtective_of_name hm hs

namespace Config

theorem output_of_set {c c' : Config} {k : String} {v : Value} (h : c.set (k, v) = .ok c')
    (hk : k ≠ "output") : c'.output = c.output := by
  unfold set at h
  split at h
  -- every key sets a field of its own, is passed over or is refused
  case h_11 heq => exact absurd (Prod.mk.inj heq).1 hk
  all_goals first
    | cases h
      rfl
    | obtain ⟨_, -, rfl⟩ := Outcome.map_eq_ok.mp h
      rfl
    | cases h

theorem KeepsFiles.set {c c' : Config} {k : String} {v : Value} (h : c.set (k, v) = .ok c')
    (hmode : k = "output" → ∀ os, v = .map os → NamesOtherMode os) (hc : c.KeepsFiles) :
    c'.KeepsFiles := by
  by_cases hk : k = "output"
  · subst hk
    obtain ⟨s, hs, rfl⟩ := Outcome.map_eq_ok.mp h
    intro o ho
    unfold Section.ofValue at hs
    split at hs
    next os =>
      obtain ⟨o', ho', rfl⟩ := Outcome.map_eq_ok.mp hs
      obtain rfl := Option.some.inj ho
      exact OutputSettings.isProtective_of_ofEntries ho' (hmode rfl os rfl)
    next =>
      -- of a value that is no section, the defaults are in force if anything is
      obtain rfl := Except.ok.inj hs
      simp only [Section.effective?] at ho
      split_ifs at ho
      obtain rfl := Option.some.inj ho
      rfl
  · unfold KeepsFiles
    rw [output_of_set h hk]
    exact hc

/-- A document that does not ask for overwriting, and names the mode it asks for, keeps the files
that exist. -/
theorem keepsFiles_of_ofValue {es : Entries Value} {c : Config} (h : ofValue (.map es) = .ok c)
    (hmode : ∀ os, ("output", .map os) ∈ es → NamesOtherMode os) : c.KeepsFiles := by
  refine Outcome.foldlM_induction ?_ h ?_
  · rintro ⟨k, v⟩ hmem c c' hset hc
    refine hc.set hset ?_
    rintro rfl os rfl
    exact hmode os hmem
  · intro o ho
    obtain rfl := Option.some.inj ho
    rfl

end Config

end Configuration

section Paths

open FileTree

variable {made : Place → Prop} {t t' : FileTree}

/-- Two dots in a path stand after directories that exist. -/
def FileTree.IsSettled (t : FileTree) (p : FilePath) : Prop :=
  ∀ n < p.parts.length, p.parts[n]? = some ".." → t.isDirectory ⟨p.root, p.parts.take n⟩ = true

instance (t : FileTree) (p : FilePath) : Decidable (t.IsSettled p) :=
  inferInstanceAs (Decidable (∀ n < p.parts.length, _ → _))

theorem FileTree.KeepsDirectories.isSettled (h : KeepsDirectories t t') {p : FilePath}
    (hp : t.IsSettled p) : t'.IsSettled p := by
  intro n hlength hn
  obtain ⟨d, hd, hnode⟩ := isDirectory_iff.mp (hp n hlength hn)
  exact isDirectory_iff.mpr ⟨d, h.place hd, h.directory hnode⟩

/-- After directories were made, names lead where they led before, or to a place where nothing
stood. -/
theorem FileTree.Change.walk_cases (h : Change made (fun _ => False) t t') (hrooted : t.IsRooted)
    {p q : Place} {names : List String}
    (hnames : ∀ n, names[n]? = some ".." →
      ∃ d, t.walk p (names.take n) = .ok d ∧ t.node? d = some .directory)
    (hq : t'.walk p names = .ok q) : t.walk p names = .ok q ∨ t.node? q = none := by
  induction names generalizing p with
  | nil => exact Or.inl hq
  | cons name names ih =>
    obtain ⟨d, hd, hrest⟩ := walk_cons_eq_ok.mp hq
    obtain ⟨hp', hname, hd⟩ := step_eq_ok.mp hd
    by_cases hp : t.node? p = some .directory
    · have hstep : t.step p name = .ok d := step_eq_ok.mpr ⟨hp, hname, hd⟩
      have hnames' : ∀ n, names[n]? = some ".." →
          ∃ e, t.walk d (names.take n) = .ok e ∧ t.node? e = some .directory := by
        intro n hn
        obtain ⟨e, he, hdir⟩ := hnames (n + 1) hn
        obtain ⟨d', hd', he⟩ := walk_cons_eq_ok.mp he
        obtain rfl := Except.ok.inj (hstep.symm.trans hd')
        exact ⟨e, he, hdir⟩
      exact (ih hnames' hrest).imp_left fun hwalk => walk_cons_eq_ok.mpr ⟨d, hstep, hwalk⟩
    · -- the directory is new, and nothing stood below it; from here on no name goes back
      right
      have hnone : t.node? p = none := by
        rcases h.node? p with hsame | ⟨-, hnone, -⟩ | ⟨hwritten, -⟩
        · exact absurd (hsame ▸ hp') hp
        · exact hnone
        · exact hwritten.elim
      have hforward : ".." ∉ name :: names := by
        intro hmem
        obtain ⟨n, hn⟩ := List.mem_iff_getElem?.mp hmem
        obtain ⟨e, he, hdir⟩ := hnames n hn
        cases n with
        | zero =>
          obtain rfl := Except.ok.inj he
          exact hp hdir
        | succ n =>
          obtain ⟨_, hstep, -⟩ := walk_cons_eq_ok.mp he
          exact hp (step_eq_ok.mp hstep).1
      rw [eq_append_of_walk hq hforward]
      exact hrooted.node?_append hnone _

theorem FileTree.node?_of_find?_none {p : FilePath} {q : Place} (h : t.find? p = .ok none)
    (hq : t.place p = .ok q) : t.node? q = none := by
  by_contra hne
  obtain ⟨n, hn⟩ := Option.ne_none_iff_exists'.mp hne
  have hstatus := status_eq_ok.mpr ⟨q, hq, hn⟩
  simp [find?, hstatus] at h

theorem FileTree.Change.node?_of_find?_none (h : Change made (fun _ => False) t t')
    (hrooted : t.IsRooted) {p : FilePath} {q : Place} (hp : t.IsSettled p)
    (hfind : t.find? p = .ok none) (hq : t'.place p = .ok q) : t.node? q = none := by
  obtain ⟨hlength, hwalk⟩ := place_eq_ok.mp hq
  rw [h.keepsDirectories.start] at hwalk
  have hnames : ∀ n, p.parts[n]? = some ".." →
      ∃ d, t.walk (t.start p) (p.parts.take n) = .ok d ∧ t.node? d = some .directory := by
    intro n hn
    obtain ⟨hlength, -⟩ := List.getElem?_eq_some_iff.mp hn
    obtain ⟨d, hd, hdir⟩ := isDirectory_iff.mp (hp n hlength hn)
    exact ⟨d, (place_eq_ok.mp hd).2, hdir⟩
  rcases h.walk_cases hrooted hnames hwalk with hsame | hnone
  · exact FileTree.node?_of_find?_none hfind (place_eq_ok.mpr ⟨hlength, hsame⟩)
  · exact hnone

end Paths

namespace Writer

open FileTree

variable {t t' : FileTree}

/-- What is new in a tree: directories, and files where nothing stood. -/
abbrev Adds (t t' : FileTree) : Prop := Change (fun _ => True) (fun r => t.node? r = none) t t'

theorem Adds.trans {t₁ : FileTree} (h : Adds t t₁) (h' : Adds t₁ t') : Adds t t' := by
  refine Change.trans h (h'.mono (fun _ => id) ?_)
  intro r hr
  rcases h.node? r with hsame | ⟨-, hnone, -⟩ | ⟨hnone, -⟩
  · rw [← hsame, hr]
  · exact hnone
  · exact hnone

theorem write_of_output_none {w : Writer} {a : Artifact} {result : Except Fault WriteResult}
    (hw : w.output = none) (h : (w.write a).outcome t = (t', result)) : t' = t := by
  rw [outcome_write_of_none hw] at h
  cases hfind : t.find? (.ofString a.path) with
  | error r =>
    simp only [hfind] at h
    exact (Prod.mk.inj h).1.symm
  | ok found =>
    simp only [hfind] at h
    exact (Prod.mk.inj h).1.symm

theorem write_adds {w : Writer} {a : Artifact}
    (hmode : ∀ o, w.output = some o → o.mode.isProtective = true) (hrooted : t.IsRooted)
    (hpath : t.IsSettled (.ofString a.path)) : Adds t (w.write a t).1 := by
  have h : (w.write a).outcome t = ((w.write a t).1, (w.write a t).2.result) := rfl
  generalize (w.write a t).1 = t', (w.write a t).2.result = result at h ⊢
  cases hw : w.output with
  | none =>
    rw [write_of_output_none hw h]
    exact Change.refl ..
  | some o =>
    rcases write_cases hw h with ⟨-, -, rfl, -⟩ | ⟨-, rfl, -⟩ | ⟨found, hfound, hprotected, hsave⟩
    · exact Change.refl ..
    · exact Change.refl ..
    cases found with
    | some n =>
      have hoverwrites := hprotected rfl
      rw [hmode o hw] at hoverwrites
      cases hoverwrites
    | none =>
      -- nothing was found, so nothing is copied and only directories are made before the file
      obtain ⟨t₁, hprepared, hend⟩ := save_cases hsave
      have hmade : Change (fun _ => True) (fun _ => False) t t₁ :=
        Change.mono hprepared (fun _ _ => trivial) (by rintro r ⟨hcopied, -⟩; cases hcopied)
      have hadds : Adds t t₁ := hmade.mono (fun _ => id) fun _ => False.elim
      rcases hend with ⟨rfl, -⟩ | ⟨q, _, hq, hnode, rfl, -⟩
      · exact hadds
      · refine Change.trans hadds ((Change.put_file hq hnode _).mono (fun _ => id) ?_)
        rintro r rfl
        exact hmade.node?_of_find?_none hrooted hpath hfound hq

/-- What every write of a batch preserves, the batch preserves, wherever it ends. -/
theorem writeEach_induction {w : Writer} {motive : FileTree → Prop} {as : List Artifact}
    (hstep : ∀ a ∈ as, ∀ t, motive t → motive (w.write a t).1) (r : Report) (ht : motive t) :
    motive (w.writeEach as r t).1 := by
  induction as generalizing r t with
  | nil => exact ht
  | cons a as ih =>
    have ha : motive (w.write a t).1 := hstep a (by simp) t ht
    have has : ∀ r, motive (w.writeEach as r (w.write a t).1).1 := fun r =>
      ih (fun b hb => hstep b (List.mem_cons_of_mem _ hb)) r ha
    dsimp only [writeEach]
    split
    next h => simpa only [h] using has _
    next h => simpa only [h] using has _
    next h => simpa only [h] using ha

theorem writeAll_adds {w : Writer} {as : List Artifact}
    (hmode : ∀ o, w.output = some o → o.mode.isProtective = true) (hrooted : t.IsRooted)
    (hpaths : ∀ a ∈ as, t.IsSettled (.ofString a.path)) : Adds t (w.writeAll as t).1 := by
  refine writeEach_induction (motive := Adds t) ?_ {} (Change.refl ..)
  intro a ha t₁ ht₁
  -- what a path needs of the tree survives the writes before
  refine ht₁.trans (write_adds hmode (ht₁.isRooted hrooted) ?_)
  exact ht₁.keepsDirectories.isSettled (hpaths a ha)

theorem output_of_ofSections {output : Section OutputSettings}
    {formatter : Section FormatterSettings} {accepts : String → Bool} {w : Writer}
    (h : ofSections output formatter accepts = .ok w) : w.output = output.effective? {} := by
  unfold ofSections at h
  split at h
  next => cases h
  next =>
    obtain ⟨tool, -, h⟩ := Outcome.bind_eq_ok.mp h
    obtain rfl := Except.ok.inj h
    rfl

/-- Only a batch that is asked to overwrites files. Under a configuration that leaves the mode open
or names another, every file keeps its bytes. -/
theorem writeAll_keeps {es : Entries Value} {c : Config} {formatter : Section FormatterSettings}
    {accepts : String → Bool} {w : Writer} {as : List Artifact}
    (hc : Config.ofValue (.map es) = .ok c)
    (hmode : ∀ os, ("output", .map os) ∈ es → Config.NamesOtherMode os)
    (hw : ofSections c.output formatter accepts = .ok w) (hrooted : t.IsRooted)
    (hpaths : ∀ a ∈ as, t.IsSettled (.ofString a.path)) {q : Place} {bytes : List UInt8}
    (hfile : t.bytes? q = some bytes) : (w.writeAll as t).1.bytes? q = some bytes := by
  have hprotective : ∀ o, w.output = some o → o.mode.isProtective = true := by
    rw [output_of_ofSections hw]
    exact Config.keepsFiles_of_ofValue hc hmode
  have hadds := writeAll_adds hprotective hrooted hpaths
  rw [Change.bytes? hadds, hfile]
  intro hnone
  rw [bytes?_eq_some.mp hfile] at hnone
  cases hnone

def reportingDocument : Entries Value :=
  [("output", .map [("mode", .str "error"), ("backup", .bool true)])]

def reporting : OutputSettings := { mode := .mode .error, backup := .bool true }

def replacement : Artifact := { path := "pkg/m.py", content := "x = 2\n" }

/-- The second path goes back, but from a directory that exists. -/
def packageArtifacts : List Artifact :=
  [replacement, { path := "pkg/../n.py", content := "" }]

theorem writeAll_keeps_package :
    ∃ c w, Config.ofValue (.map reportingDocument) = .ok c
      ∧ ofSections c.output c.formatter Code.isModule = .ok w
      ∧ (w.writeAll packageArtifacts packageTree).1.bytes? ["pkg", "m.py"] = some [120] := by
  have hc : Config.ofValue (.map reportingDocument) = .ok { output := .settings reporting } := rfl
  have hw : ofSections (.settings reporting) (.settings {}) Code.isModule
      = .ok ⟨some reporting, none, Code.isModule⟩ := rfl
  have hmode : ∀ os, ("output", .map os) ∈ reportingDocument → Config.NamesOtherMode os := by
    intro os hos
    obtain rfl : os = [("mode", .str "error"), ("backup", .bool true)] := by
      simpa [reportingDocument] using hos
    intro v hv
    obtain rfl := Option.some.inj hv
    exact ⟨"error", rfl, by decide⟩
  exact ⟨_, _, hc, hw, writeAll_keeps hc hmode hw (by decide) (by decide) rfl⟩

def nullModeDocument : Entries Value := [("output", .map [("mode", .null)])]

def unnamed : OutputSettings := { mode := .other .null }

def detour : Artifact := { path := "new/../pkg/m.py", content := "x = 2\n" }

/-- A mode that is no text does not ask for overwriting, and overwrites. So does, in any mode, a
path that goes back from a directory made for it: it led nowhere when it was looked up. -/
theorem writeAll_overwrites_package :
    packageTree.IsRooted ∧ packageTree.bytes? ["pkg", "m.py"] = some [120]
      ∧ packageTree.place (.ofString replacement.path) = .ok ["pkg", "m.py"]
      ∧ (∃ c w, Config.ofValue (.map nullModeDocument) = .ok c
        ∧ ofSections c.output c.formatter Code.isModule = .ok w
        ∧ (w.writeAll [replacement] packageTree).1.bytes? ["pkg", "m.py"]
          = some [120, 32, 61, 32, 50, 10])
      ∧ ∃ c w, Config.ofValue (.map []) = .ok c
        ∧ ofSections c.output c.formatter Code.isModule = .ok w
        ∧ (w.writeAll [detour, replacement] packageTree).1.bytes? ["pkg", "m.py"]
          = some [120, 32, 61, 32, 50, 10] := by
  have hnull : Config.ofValue (.map nullModeDocument) = .ok { output := .settings unnamed } := rfl
  have hnull' : ofSections (.settings unnamed) (.settings {}) Code.isModule
      = .ok ⟨some unnamed, none, Code.isModule⟩ := rfl
  have hdefault : Config.ofValue (.map []) = .ok {} := rfl
  have hdefault' : ofSections (.settings {}) (.settings {}) Code.isModule
      = .ok ⟨some {}, none, Code.isModule⟩ := rfl
  refine ⟨by decide, rfl, rfl, ⟨_, _, hnull, hnull', ?_⟩, _, _, hdefault, hdefault', ?_⟩
  · decide +kernel
  · decide +kernel

end Writer

end SmithyGen
