import Mathlib.Data.List.Infix
import SmithyGen.Code
import SmithyGen.Proofs.FilePath
import SmithyGen.Proofs.FileTree
import SmithyGen.Write

namespace SmithyGen

open FileTree

theorem FileTree.isNamed_iff {p : FilePath} :
    isNamed p = true ↔ ∃ names last, p.parts = names ++ [last] ∧ last ≠ ".." := by
  unfold isNamed
  rcases List.eq_nil_or_concat p.parts with h | ⟨names, last, h⟩
  · simp [h]
  · rw [h, List.concat_eq_append]
    simp only [List.getLast?_concat, Option.elim_some, bne_iff_ne]
    constructor
    · exact fun hlast => ⟨names, last, rfl, hlast⟩
    · rintro ⟨names', last', heq, hlast⟩
      obtain ⟨-, hlast'⟩ := List.append_inj' heq rfl
      rwa [List.cons_eq_cons.mp hlast' |>.1]

theorem FilePath.exists_parts_of_name {p : FilePath} {last : String} (h : p.name = last)
    (hlast : last ≠ "") : ∃ names, p.parts = names ++ [last] := by
  unfold name at h
  rcases List.eq_nil_or_concat p.parts with hparts | ⟨names, last', hparts⟩
  · exact absurd (by simpa [hparts] using h.symm) hlast
  · rw [hparts, List.concat_eq_append] at h ⊢
    obtain rfl : last' = last := by simpa using h
    exact ⟨names, rfl⟩

theorem FilePath.isNamed_of_suffix {p : FilePath} (h : p.suffix ≠ "") : isNamed p = true := by
  rw [isNamed_iff]
  unfold suffix at h
  have hname : p.name ≠ "" := by
    intro he
    exact h (by rw [he]; decide)
  obtain ⟨names, hparts⟩ := exists_parts_of_name rfl hname
  refine ⟨names, p.name, hparts, ?_⟩
  intro he
  exact h (by rw [he]; decide)

/-- Whether a mode keeps a file that exists. -/
def ModeSetting.isProtective : ModeSetting → Bool
  | .mode .skip | .mode .error => true
  | _ => false

namespace Writer

variable {t t' : FileTree}

/-- Replacing a file leaves the tree as it was, or gives the file other bytes. -/
theorem replaceFile_cases (accepted : Bool) (p : FilePath) (bytes : List UInt8) (t : FileTree) :
    (∃ cause, replaceFile accepted p bytes t = (t, .error cause))
    ∨ ∃ q, accepted = true ∧ isNamed p = true ∧ t.place p = .ok q
        ∧ t.node? q ≠ some .directory
        ∧ replaceFile accepted p bytes t = (t.put q (.file bytes), .ok ()) := by
  unfold replaceFile
  split
  next r _ => exact Or.inl ⟨_, rfl⟩
  next temporary htemporary =>
    obtain ⟨directory, -, hstep⟩ := Outcome.bind_eq_ok.mp htemporary
    have hfree := node?_of_step_freshName hstep
    have herase := erase_put_of_free hfree (.file bytes)
    dsimp only
    split_ifs with haccepted
    · split
      next t' hmove =>
        obtain ⟨hnamed, q, n, hq, hnode, hsource, rfl⟩ := move_cases hmove
        have htemporary : temporary ≠ [] :=
          ne_nil_of_node?_ne (t := t) (by simp [hfree])
        obtain rfl : .file bytes = n := by
          simpa [node?_put_self t _ htemporary] using hsource
        -- the temporary file is no directory, so the path led there without it
        have hkeeps : KeepsDirectories (t.put temporary (.file bytes)) t := by
          refine ⟨rfl, ?_⟩
          intro r hr
          have hne : r ≠ temporary := by
            rintro rfl
            rw [node?_put_self t _ htemporary] at hr
            cases hr
          rwa [node?_put_of_ne t _ hne] at hr
        have hplace := hkeeps.place hq
        have hdirectory : t.node? q ≠ some .directory := by
          intro h
          have hne : q ≠ temporary := by
            rintro rfl
            rw [hfree] at h
            cases h
          exact hnode (by rw [node?_put_of_ne t _ hne, h])
        exact Or.inr ⟨q, haccepted, hnamed, hplace, hdirectory, by rw [herase]⟩
      next r _ => exact Or.inl ⟨_, by rw [herase]⟩
    · exact Or.inl ⟨_, by rw [herase]⟩

theorem overwriteFile_cases (p : FilePath) (bytes : List UInt8) (t : FileTree) :
    (∃ cause, overwriteFile p bytes t = (t, .error cause))
    ∨ ∃ q, t.place p = .ok q ∧ t.node? q ≠ some .directory
        ∧ overwriteFile p bytes t = (t.put q (.file bytes), .ok ()) := by
  unfold overwriteFile
  split
  next t' h =>
    obtain ⟨q, hq, hnode, rfl⟩ := write_eq_ok.mp h
    exact Or.inr ⟨q, hq, hnode, rfl⟩
  next r _ => exact Or.inl ⟨_, rfl⟩

def copyPath (p : FilePath) : FilePath := FilePath.ofString (p.toString ++ backupSuffix)

/-- Where the copy of a file goes: to its path with the suffix, or by its name into the directory
there. -/
def IsCopyPlace (t : FileTree) (p : FilePath) (r : Place) : Prop :=
  ∃ b, t.place (copyPath p) = .ok b
    ∧ r = if t.node? b = some .directory then b ++ [p.name] else b

theorem place_copy_cases {s last : String} {names : List String} {b : Place}
    (hparts : (FilePath.ofString s).parts = names ++ [last])
    (h : t.place (copyPath (FilePath.ofString s)) = .ok b) :
    ∃ d, t.walk (t.start (FilePath.ofString s)) names = .ok d ∧ t.node? d = some .directory
      ∧ b = d ++ [last ++ backupSuffix] := by
  rw [copyPath, FilePath.ofString_toString_append hparts (by decide) (by decide)] at h
  have hlast : last ++ backupSuffix ≠ ".." := by
    intro he
    have hend := congrArg (fun s => s.toList.getLast?) he
    simp [backupSuffix, String.toList_append] at hend
  exact place_concat_cases h hlast

theorem backupTarget_eq (t : FileTree) (p : FilePath) :
    backupTarget t p = if t.isDirectory (copyPath p) = true
      then ⟨(copyPath p).root, (copyPath p).parts ++ [p.name]⟩ else copyPath p := rfl

/-- A copy goes nowhere else; where its path would lead back, a directory is in its way. -/
theorem isCopyPlace_of_place {s : String} {r : Place}
    (h : t.place (backupTarget t (FilePath.ofString s)) = .ok r)
    (hnode : t.node? r ≠ some .directory) : IsCopyPlace t (FilePath.ofString s) r := by
  by_cases hdirectory : t.isDirectory (copyPath (.ofString s)) = true
  · obtain ⟨b, hb, hdir⟩ := isDirectory_iff.mp hdirectory
    refine ⟨b, hb, ?_⟩
    rw [backupTarget_eq, if_pos hdirectory] at h
    obtain ⟨-, -, rfl⟩ := step_eq_ok.mp (step_of_place_concat h hb)
    rw [if_pos hdir]
    -- two dots as the name would lead back from the directory, to a directory
    by_cases hname : (FilePath.ofString s).name = ".."
    · obtain ⟨names, hparts⟩ := FilePath.exists_parts_of_name hname (by decide)
      obtain ⟨d, -, hd, rfl⟩ := place_copy_cases hparts hb
      exact absurd hd (by simpa [hname] using hnode)
    · simp [hname]
  · rw [backupTarget_eq, if_neg hdirectory] at h
    refine ⟨r, h, ?_⟩
    rw [if_neg hnode]

theorem backUp_cases (s : String) (t : FileTree) :
    (∃ fault, backUp (.ofString s) t = (t, .error fault))
    ∨ ∃ bytes r, t.read (.ofString s) = .ok bytes ∧ IsCopyPlace t (.ofString s) r
        ∧ (∀ made, Change made (· = r) t (t.put r (.file bytes)))
        ∧ t.node? r ≠ some .directory
        ∧ backUp (.ofString s) t = (t.put r (.file bytes), .ok ()) := by
  unfold backUp
  split
  next fault _ => exact Or.inl ⟨_, rfl⟩
  next bytes hread =>
    dsimp only
    split
    next t' hwrite =>
      obtain ⟨r, hr, hnode, rfl⟩ := write_eq_ok.mp hwrite
      exact Or.inr ⟨bytes, r, hread, isCopyPlace_of_place hr hnode,
        fun _ => Change.put_file hr hnode bytes, hnode, rfl⟩
    next fault _ => exact Or.inl ⟨_, rfl⟩

/-- A copy never stands at the place of its file. -/
theorem IsCopyPlace.ne {s : String} {q r : Place} (h : IsCopyPlace t (.ofString s) r)
    (hnamed : isNamed (.ofString s) = true) (hkeeps : KeepsDirectories t t')
    (hq : t'.place (.ofString s) = .ok q) : r ≠ q := by
  obtain ⟨names, last, hparts, hlast⟩ := isNamed_iff.mp hnamed
  obtain ⟨b, hb, rfl⟩ := h
  obtain ⟨d, hd, -, rfl⟩ := place_copy_cases hparts hb
  -- both stand below the directory of the file
  have hd' : t'.walk (t'.start (.ofString s)) names = .ok d := by
    rw [hkeeps.start]
    exact hkeeps.walk hd
  have hwalk := (place_eq_ok.mp hq).2
  rw [hparts] at hwalk
  obtain ⟨d', hd'', hstep⟩ := walk_concat_eq_ok.mp hwalk
  obtain rfl : d = d' := Except.ok.inj (hd'.symm.trans hd'')
  obtain rfl := eq_of_step hstep hlast
  have hlonger : last ++ backupSuffix ≠ last := by
    intro he
    have hlength := congrArg String.length he
    simp [String.length_append, backupSuffix] at hlength
  split_ifs with hdirectory
  · intro he
    simpa using congrArg List.length he
  · simpa using hlonger

/-- What stands ready when a file is about to be written: directories above it were made, and a
copy of what stood there, where one is asked for. -/
def Prepared (copied : Bool) (p : FilePath) (t t' : FileTree) : Prop :=
  Change (t'.IsAlong p.parent) (fun r => copied = true ∧ t.isFile p = true ∧ IsCopyPlace t p r) t t'

/-- The bytes of a file stand at the place of its copy. -/
def HasCopy (p : FilePath) (t t' : FileTree) : Prop :=
  ∀ bytes, t.read p = .ok bytes → ∃ r, IsCopyPlace t p r ∧ t'.node? r = some (.file bytes)

def fill (w : Writer) (o : OutputSettings) (p : FilePath) (content : String) (r : WriteResult) :
    Session WriteResult := do
  let refused := fun cause => Fault.write ⟨p.toString, cause⟩
  requireNoNull p.parent
  Session.change (refused ∘ .file) fun t => t.makeDirectories p.parent
  requireNoNull p
  let bytes := Utf8.encode content
  Session.change refused
    (if o.atomicWrite.truthy then replaceFile (w.accepted o p content) p bytes
      else overwriteFile p bytes)
  Session.note (.written r.status.title p.toString)
  return r

theorem save_of_not_copied (w : Writer) {o : OutputSettings} {existed : Bool}
    (h : (existed && o.backup.truthy) = false) (p : FilePath) (content : String) :
    w.save o existed p content
      = w.fill o p content ⟨p.toString, if existed then .updated else .created, none⟩ := by
  unfold save
  simp only [h]
  rfl

theorem save_of_copied (w : Writer) {o : OutputSettings} {existed : Bool}
    (h : (existed && o.backup.truthy) = true) (p : FilePath) (content : String) :
    w.save o existed p content = (do
      let copy := p.toString ++ backupSuffix
      Session.change (fun fault => .write ⟨p.toString, .file fault⟩) (backUp p)
      Session.note (.backedUp p.toString copy)
      w.fill o p content ⟨p.toString, if existed then .updated else .created, some copy⟩) := by
  unfold save
  simp only [h]
  rfl

theorem putFile_cases {atomic accepted : Bool} {p : FilePath} {bytes : List UInt8}
    {r : Except WriteCause Unit}
    (h : (if atomic = true then replaceFile accepted p bytes else overwriteFile p bytes) t
      = (t', r)) :
    (t' = t ∧ ∃ cause, r = .error cause)
    ∨ r = .ok () ∧ ∃ q, t.place p = .ok q ∧ t.node? q ≠ some .directory
        ∧ t' = t.put q (.file bytes) ∧ (atomic = true → isNamed p = true ∧ accepted = true) := by
  split_ifs at h with hatomic
  · rcases replaceFile_cases accepted p bytes t with ⟨cause, hkept⟩ | ⟨q, ha, hnamed, hq, hn, hdone⟩
    · obtain ⟨rfl, rfl⟩ := Prod.mk.inj (h.symm.trans hkept)
      exact Or.inl ⟨rfl, cause, rfl⟩
    · obtain ⟨rfl, rfl⟩ := Prod.mk.inj (h.symm.trans hdone)
      exact Or.inr ⟨rfl, q, hq, hn, rfl, fun _ => ⟨hnamed, ha⟩⟩
  · rcases overwriteFile_cases p bytes t with ⟨cause, hkept⟩ | ⟨q, hq, hn, hdone⟩
    · obtain ⟨rfl, rfl⟩ := Prod.mk.inj (h.symm.trans hkept)
      exact Or.inl ⟨rfl, cause, rfl⟩
    · obtain ⟨rfl, rfl⟩ := Prod.mk.inj (h.symm.trans hdone)
      exact Or.inr ⟨rfl, q, hq, hn, rfl, fun ha => absurd ha hatomic⟩

/-- Why a save fails: the file system refuses one of its steps or the content is not accepted, and
the fault tells the path; or the path has a null character. -/
def IsSaveFault (p : FilePath) (e : Fault) : Prop :=
  (∃ cause, e = .write ⟨p.toString, cause⟩) ∨ e = .badValue .nullCharacter ∧ p.hasNull = true

theorem hasNull_of_parent {p : FilePath} (h : p.parent.hasNull = true) : p.hasNull = true := by
  simp only [FilePath.hasNull, FilePath.parent, List.any_eq_true] at h ⊢
  obtain ⟨name, hname, hnull⟩ := h
  exact ⟨name, List.mem_of_mem_dropLast hname, hnull⟩

theorem requireNoNull_cases {p : FilePath} {r : Except Fault Unit}
    (h : (requireNoNull p).outcome t = (t', r)) :
    t' = t ∧ (r = .error (.badValue .nullCharacter) ∧ p.hasNull = true
      ∨ r = .ok () ∧ p.hasNull = false) := by
  unfold requireNoNull at h
  split_ifs at h with hnull
  · obtain ⟨rfl, rfl⟩ := Prod.mk.inj h
    exact ⟨rfl, Or.inl ⟨rfl, hnull⟩⟩
  · obtain ⟨rfl, rfl⟩ := Prod.mk.inj h
    exact ⟨rfl, Or.inr ⟨rfl, by simpa using hnull⟩⟩

theorem fill_cases {w : Writer} {o : OutputSettings} {p : FilePath} {content : String}
    {r : WriteResult} {result : Except Fault WriteResult}
    (h : (w.fill o p content r).outcome t = (t', result)) :
    ∃ t₁, (∀ written, Change (t₁.IsAlong p.parent) written t t₁)
      ∧ ((t' = t₁ ∧ ∃ e, result = .error e ∧ IsSaveFault p e)
        ∨ ∃ q, t₁.place p = .ok q ∧ t₁.node? q ≠ some .directory
          ∧ t' = t₁.put q (.file (Utf8.encode content)) ∧ result = .ok r
          ∧ (o.atomicWrite.truthy = true → isNamed p = true ∧ w.accepted o p content = true)) := by
  rcases Session.outcome_bind_cases h with ⟨e, hparent, rfl⟩ | ⟨t₀, ⟨⟩, hparent, hmake⟩
  · obtain ⟨rfl, ⟨he, hnull⟩ | ⟨hok, -⟩⟩ := requireNoNull_cases hparent
    · obtain rfl := Except.error.inj he
      have hpath := hasNull_of_parent hnull
      exact ⟨t', fun _ => Change.refl .., Or.inl ⟨rfl, _, rfl, Or.inr ⟨rfl, hpath⟩⟩⟩
    · cases hok
  obtain rfl : t₀ = t := (requireNoNull_cases hparent).1
  refine ⟨(t₀.makeDirectories p.parent).1, makeDirectories_change t₀ p.parent, ?_⟩
  rcases Session.outcome_bind_cases hmake with
    ⟨e, hdirectories, rfl⟩ | ⟨t₁, ⟨⟩, hdirectories, hcheck⟩
  · rcases Session.outcome_change_cases hdirectories with ⟨fault, -, he⟩ | ⟨_, -, hok⟩
    · obtain rfl := Except.error.inj he
      obtain ⟨rfl, -⟩ := Prod.mk.inj hdirectories
      exact Or.inl ⟨rfl, _, rfl, Or.inl ⟨_, rfl⟩⟩
    · cases hok
  obtain ⟨rfl, -⟩ := Prod.mk.inj hdirectories
  rcases Session.outcome_bind_cases hcheck with ⟨e, hname, rfl⟩ | ⟨t₂, ⟨⟩, hname, hwrite⟩
  · obtain ⟨rfl, ⟨he, hnull⟩ | ⟨hok, -⟩⟩ := requireNoNull_cases hname
    · obtain rfl := Except.error.inj he
      exact Or.inl ⟨rfl, _, rfl, Or.inr ⟨rfl, hnull⟩⟩
    · cases hok
  obtain rfl := (requireNoNull_cases hname).1
  rcases Session.outcome_bind_cases hwrite with ⟨e, hfile, rfl⟩ | ⟨t₃, ⟨⟩, hfile, hend⟩
  · rcases Session.outcome_change_cases hfile with ⟨cause, hput, he⟩ | ⟨_, -, hok⟩
    · obtain rfl := Except.error.inj he
      rcases putFile_cases hput with ⟨rfl, -⟩ | ⟨hok, -⟩
      · exact Or.inl ⟨rfl, _, rfl, Or.inl ⟨_, rfl⟩⟩
      · cases hok
    · cases hok
  · obtain ⟨rfl, rfl⟩ : t₃ = t' ∧ .ok r = result := by simpa using hend
    rcases Session.outcome_change_cases hfile with ⟨_, -, hcause⟩ | ⟨⟨⟩, hfile, -⟩
    · cases hcause
    · rcases putFile_cases hfile with ⟨-, _, hcause⟩ | ⟨-, q, hq, hnode, hput, hatomic⟩
      · cases hcause
      · exact Or.inr ⟨q, hq, hnode, hput, rfl, hatomic⟩

theorem Prepared.refl (copied : Bool) (p : FilePath) (t : FileTree) : Prepared copied p t t :=
  Change.refl _ _ _

/-- What saving a file does: it makes the tree ready, and then it writes the file or leaves the
rest as it is. -/
theorem save_cases {w : Writer} {o : OutputSettings} {existed : Bool} {s content : String}
    {result : Except Fault WriteResult}
    (h : (w.save o existed (.ofString s) content).outcome t = (t', result)) :
    ∃ t₁, Prepared (existed && o.backup.truthy) (.ofString s) t t₁
      ∧ ((t' = t₁ ∧ ∃ e, result = .error e ∧ IsSaveFault (.ofString s) e)
        ∨ ∃ q r, t₁.place (.ofString s) = .ok q ∧ t₁.node? q ≠ some .directory
          ∧ t' = t₁.put q (.file (Utf8.encode content)) ∧ result = .ok r
          ∧ (r.path = (FilePath.ofString s).toString ∧ r.status ≠ .skipped)
          ∧ (o.atomicWrite.truthy = true →
              isNamed (.ofString s) = true ∧ w.accepted o (.ofString s) content = true)
          ∧ ((existed && o.backup.truthy) = true → HasCopy (.ofString s) t t₁)) := by
  have hstatus : (if existed then WriteStatus.updated else .created) ≠ .skipped := by
    cases existed <;> simp
  cases hcopied : existed && o.backup.truthy with
  | false =>
    rw [save_of_not_copied w hcopied] at h
    obtain ⟨t₁, hchange, hend⟩ := fill_cases h
    refine ⟨t₁, hchange _, hend.imp_right ?_⟩
    rintro ⟨q, hq, hnode, hput, hresult, hatomic⟩
    exact ⟨q, _, hq, hnode, hput, hresult, ⟨rfl, hstatus⟩, hatomic, by simp⟩
  | true =>
    rw [save_of_copied w hcopied] at h
    rcases Session.outcome_bind_cases h with ⟨e, hcopy, rfl⟩ | ⟨t₀, ⟨⟩, hcopy, h⟩
    · rcases Session.outcome_change_cases hcopy with ⟨fault, hbackUp, he⟩ | ⟨_, -, hok⟩
      · obtain rfl := Except.error.inj he
        rcases backUp_cases s t with ⟨_, hkept⟩ | ⟨_, _, -, -, -, -, hdone⟩
        · obtain ⟨rfl, -⟩ := Prod.mk.inj (hbackUp.symm.trans hkept)
          exact ⟨t', Prepared.refl .., Or.inl ⟨rfl, _, rfl, Or.inl ⟨_, rfl⟩⟩⟩
        · exact absurd (Prod.mk.inj (hbackUp.symm.trans hdone)).2 (by simp)
      · cases hok
    · rcases Session.outcome_change_cases hcopy with ⟨_, -, hcause⟩ | ⟨⟨⟩, hcopy, -⟩
      · cases hcause
      rcases backUp_cases s t with ⟨_, hkept⟩ | ⟨bytes, r, hread, hr, hput, hnode, hdone⟩
      · exact absurd (Prod.mk.inj (hcopy.symm.trans hkept)).2 (by simp)
      obtain ⟨rfl, -⟩ := Prod.mk.inj (hcopy.symm.trans hdone)
      rw [Session.outcome_bind, Session.outcome_note] at h
      obtain ⟨t₁, hchange, hend⟩ := fill_cases h
      have hfile : t.isFile (.ofString s) = true := isFile_of_read hread
      have hprepared : Prepared true (.ofString s) t t₁ := by
        refine (hput _).mono (fun _ => id) ?_ |>.trans (hchange _)
        rintro _ rfl
        exact ⟨rfl, hfile, hr⟩
      -- the copy outlives the making of directories
      have hcopy₁ : t₁.node? r = some (.file bytes) := by
        rw [← bytes?_eq_some, (hchange fun _ => False).bytes? id, bytes?_eq_some]
        exact node?_put_self t _ (ne_nil_of_node?_ne hnode)
      refine ⟨t₁, hprepared, hend.imp_right ?_⟩
      rintro ⟨q, hq, hnode, hput, hresult, hatomic⟩
      refine ⟨q, _, hq, hnode, hput, hresult, ⟨rfl, hstatus⟩, hatomic, fun _ bytes' hread' => ?_⟩
      obtain rfl : bytes = bytes' := Except.ok.inj (hread.symm.trans hread')
      exact ⟨r, hr, hcopy₁⟩

/-- The result of an artifact that is kept as it is. -/
def skippedResult (a : Artifact) : WriteResult :=
  { path := (FilePath.ofString a.path).toString, status := .skipped }

theorem outcome_write {w : Writer} {o : OutputSettings} (hw : w.output = some o)
    (a : Artifact) (t : FileTree) :
    (w.write a).outcome t = match t.find? (.ofString a.path) with
      | .error r => (t, .error (.fileSystem r))
      | .ok found =>
        match found.isSome, o.mode with
        | true, .mode .skip => (t, .ok (skippedResult a))
        | true, .mode .error =>
          (t, .error (.write ⟨(FilePath.ofString a.path).toString, .exists⟩))
        | _, _ => (w.save o found.isSome (.ofString a.path) a.content).outcome t := by
  unfold write
  rw [Session.outcome_bind, Session.outcome_inspect]
  cases t.find? (.ofString a.path) with
  | error r => rfl
  | ok found =>
    simp only [hw, Logged.ofExcept, Except.mapError]
    cases found.isSome with
    | false => simp
    | true =>
      cases o.mode with
      | other v => simp
      | mode m => cases m <;> simp [skippedResult]

theorem outcome_write_of_none {w : Writer} (hw : w.output = none) (a : Artifact) (t : FileTree) :
    (w.write a).outcome t = match t.find? (.ofString a.path) with
      | .error r => (t, .error (.fileSystem r))
      | .ok _ => (t, .error .wrongType) := by
  unfold write
  rw [Session.outcome_bind, Session.outcome_inspect]
  cases t.find? (.ofString a.path) with
  | error r => rfl
  | ok found => simp [hw, Logged.ofExcept, Except.mapError]

/-- What writing an artifact may come to. Its path cannot be looked up; or something stands there,
which the mode keeps or refuses to overwrite; or the file is saved, over one that exists only if the
mode does not protect that. -/
theorem write_cases {w : Writer} {o : OutputSettings} {a : Artifact}
    {result : Except Fault WriteResult} (hw : w.output = some o)
    (h : (w.write a).outcome t = (t', result)) :
    (∃ r, t.find? (.ofString a.path) = .error r ∧ t' = t ∧ result = .error (.fileSystem r))
    ∨ ((∃ n, t.find? (.ofString a.path) = .ok (some n)) ∧ t' = t
        ∧ (result = .ok (skippedResult a)
          ∨ result = .error (.write ⟨(FilePath.ofString a.path).toString, .exists⟩)))
    ∨ ∃ found, t.find? (.ofString a.path) = .ok found
        ∧ (found.isSome = true → o.mode.isProtective = false)
        ∧ (w.save o found.isSome (.ofString a.path) a.content).outcome t = (t', result) := by
  rw [outcome_write hw] at h
  cases hfind : t.find? (.ofString a.path) with
  | error r =>
    simp only [hfind] at h
    obtain ⟨rfl, rfl⟩ := Prod.mk.inj h
    exact Or.inl ⟨r, rfl, rfl, rfl⟩
  | ok found =>
    refine Or.inr ?_
    simp only [hfind] at h
    split at h
    next hfound _ =>
      obtain ⟨rfl, rfl⟩ := Prod.mk.inj h
      obtain ⟨n, rfl⟩ := Option.isSome_iff_exists.mp hfound
      exact Or.inl ⟨⟨n, rfl⟩, rfl, Or.inl rfl⟩
    next hfound _ =>
      obtain ⟨rfl, rfl⟩ := Prod.mk.inj h
      obtain ⟨n, rfl⟩ := Option.isSome_iff_exists.mp hfound
      exact Or.inl ⟨⟨n, rfl⟩, rfl, Or.inr rfl⟩
    next hskip herror =>
      refine Or.inr ⟨found, rfl, ?_, h⟩
      intro hfound
      unfold ModeSetting.isProtective
      split
      next hmode => exact absurd hmode (hskip hfound)
      next hmode => exact absurd hmode (herror hfound)
      next => rfl

/-- The places of the copy of a file, where the writer makes one. -/
def Copies (o : OutputSettings) (t : FileTree) (p : FilePath) (r : Place) : Prop :=
  o.backup.truthy = true ∧ t.isFile p = true ∧ IsCopyPlace t p r

theorem Prepared.change {o : OutputSettings} {existed : Bool} {p : FilePath}
    (h : Prepared (existed && o.backup.truthy) p t t') :
    Change (t'.IsAlong p.parent) (Copies o t p) t t' := by
  refine Change.mono h (fun _ => id) ?_
  rintro r ⟨hcopied, hfile, hr⟩
  exact ⟨(Bool.and_eq_true_iff.mp hcopied).2, hfile, hr⟩

/-- A write in one step is contained. If it fails, it has at most made directories along the path
and the copy of the file; if it succeeds, the file has the content of the artifact, what stood
there before stands in the copy, and nothing else has changed; if it was skipped, nothing has. -/
theorem write_contained (w : Writer) (o : OutputSettings) (a : Artifact) (t : FileTree)
    (hw : w.output = some o) (hatomic : o.atomicWrite.truthy = true) :
    let p := FilePath.ofString a.path
    let t' := (w.write a t).1
    match (w.write a t).2.result with
    | .error _ => Change (t'.IsAlong p.parent) (Copies o t p) t t'
    | .ok r =>
      if r.status = .skipped then t' = t
      else ∃ q, t'.place p = .ok q ∧ t'.node? q = some (.file (Utf8.encode a.content))
        ∧ Change (t'.IsAlong p.parent) (fun r => r = q ∨ Copies o t p r) t t'
        ∧ (o.backup.truthy = true → HasCopy p t t') := by
  intro p t'
  have h : (w.write a).outcome t = (t', (w.write a t).2.result) := rfl
  generalize t' = t', (w.write a t).2.result = result at h ⊢
  rcases write_cases hw h with ⟨r, -, rfl, rfl⟩ | ⟨-, rfl, rfl | rfl⟩ | ⟨found, hfound, -, hsave⟩
  · exact Change.refl ..
  · simp [skippedResult]
  · exact Change.refl ..
  -- a failed save ends where the tree stood ready, whichever of its steps failed
  obtain ⟨t₁, hprepared, ⟨rfl, e, rfl, -⟩ | ⟨q, r, hq, hnode, rfl, rfl, hstatus, hput, hcopy⟩⟩ :=
    save_cases hsave
  · exact hprepared.change
  -- the file is put last, beside the copy
  have hfile : Change (t₁.IsAlong p.parent) (· = q) t₁ (t₁.put q (.file (Utf8.encode a.content))) :=
    Change.put_file hq hnode _
  have hall := (hprepared.change.mono (fun _ => id) fun r => Or.inr).trans
    (hfile.mono (fun _ => id) fun r => Or.inl)
  simp only [hstatus, if_false]
  refine ⟨q, hfile.place hq, node?_put_self t₁ _ (ne_nil_of_node?_ne hnode),
    hall.mono (fun r hr => hfile.isAlong hr) fun _ => id, ?_⟩
  intro hbackup bytes hread
  -- what can be read was found, so it was copied
  have hcopied : (found.isSome && o.backup.truthy) = true := by
    obtain rfl := Except.ok.inj (hfound.symm.trans (find?_of_read hread))
    simp [hbackup]
  obtain ⟨r, hr, hbytes⟩ := hcopy hcopied bytes hread
  have hne : r ≠ q := hr.ne (hput hatomic).1 hprepared.keepsDirectories hq
  exact ⟨r, hr, by rw [node?_put_of_ne t₁ _ hne, hbytes]⟩

def packageTree : FileTree :=
  ⟨[(["pkg"], .directory), (["pkg", "m.py"], .file [120]), (["pkg", "m.py.backup"], .directory)],
    []⟩

def copying : OutputSettings := { mode := .mode .force, backup := .bool true }

theorem write_contained_package :
    let p := FilePath.ofString "pkg/m.py"
    let t' := ((⟨copying, none, fun _ => true⟩ : Writer).write
      { path := "pkg/m.py", content := "x = 2\n" } packageTree).1
    packageTree.read p = .ok [120] ∧ ∃ q, t'.place p = .ok q
      ∧ t'.node? q = some (.file (Utf8.encode "x = 2\n"))
      ∧ Change (t'.IsAlong p.parent) (fun r => r = q ∨ Copies copying packageTree p r) packageTree t'
      ∧ HasCopy p packageTree t' := by
  intro p t'
  have h := write_contained ⟨copying, none, fun _ => true⟩ copying
    { path := "pkg/m.py", content := "x = 2\n" } packageTree rfl rfl
  have hresult : ((⟨copying, none, fun _ => true⟩ : Writer).write
      { path := "pkg/m.py", content := "x = 2\n" } packageTree).2.result
        = .ok ⟨"pkg/m.py", .updated, some "pkg/m.py.backup"⟩ := rfl
  simp only [hresult] at h
  obtain ⟨q, hq, hfile, hchange, hcopy⟩ := h
  exact ⟨rfl, q, hq, hfile, hchange, hcopy rfl⟩

/-- Where code is to be checked, a file is given only text that is accepted. Writing in place is
the exception: it checks nothing. -/
theorem write_accepted (w : Writer) (o : OutputSettings) (a : Artifact) (t : FileTree)
    (hw : w.output = some o) (hvalidate : o.validateBeforeWrite.truthy = true)
    (hsuffix : (FilePath.ofString a.path).suffix = ".py") {q : Place}
    (hq : (w.write a t).1.place (.ofString a.path) = .ok q) :
    (w.write a t).1.bytes? q = t.bytes? q
      ∨ (w.write a t).1.bytes? q = some (Utf8.encode a.content)
        ∧ (o.atomicWrite.truthy = true → w.accepts a.content = true) := by
  have h : (w.write a).outcome t = ((w.write a t).1, (w.write a t).2.result) := rfl
  generalize (w.write a t).1 = t', (w.write a t).2.result = result at h hq ⊢
  rcases write_cases hw h with ⟨-, -, rfl, -⟩ | ⟨-, rfl, -⟩ | ⟨found, -, -, hsave⟩
  · exact Or.inl rfl
  · exact Or.inl rfl
  have hnamed : isNamed (.ofString a.path) = true :=
    FilePath.isNamed_of_suffix (by rw [hsuffix]; decide)
  obtain ⟨t₁, hprepared, ⟨rfl, -⟩ | ⟨q', _, hq', hnode, rfl, -, -, hput, -⟩⟩ := save_cases hsave
  · -- the copy stands beside the file
    left
    refine Change.bytes? hprepared ?_
    rintro ⟨-, -, hcopy⟩
    exact hcopy.ne hnamed (Change.keepsDirectories hprepared) hq rfl
  · right
    have hfile : Change (fun _ => False) (· = q') t₁
      (t₁.put q' (.file (Utf8.encode a.content))) := Change.put_file hq' hnode _
    obtain rfl : q' = q := Except.ok.inj ((hfile.place hq').symm.trans hq)
    refine ⟨bytes?_eq_some.mpr (node?_put_self t₁ _ (ne_nil_of_node?_ne hnode)), ?_⟩
    intro hatomic
    simpa [accepted, hvalidate, hsuffix] using (hput hatomic).2

def brokenModule : Artifact := { path := "pkg/m.py", content := "def broken(:\n" }

/-- A text that is no module does not reach the file. -/
theorem write_accepted_broken :
    (((⟨some copying, none, Code.isModule⟩ : Writer).write brokenModule packageTree).1).bytes?
      ["pkg", "m.py"] = some [120] := by
  have h := write_accepted ⟨some copying, none, Code.isModule⟩ copying brokenModule packageTree
    rfl rfl (by decide) (q := ["pkg", "m.py"]) rfl
  rcases h with hsame | ⟨-, haccepts⟩
  · rw [hsame]
    rfl
  · exact absurd (haccepts rfl) (by decide)

def inPlace : OutputSettings := { mode := .mode .force, atomicWrite := .bool false }

/-- Written in place, it does. -/
theorem write_inPlace_broken :
    let w : Writer := ⟨some inPlace, none, Code.isModule⟩
    let t' := (w.write brokenModule packageTree).1
    inPlace.validateBeforeWrite = .bool true
      ∧ (FilePath.ofString brokenModule.path).suffix = ".py"
      ∧ w.accepts brokenModule.content = false
      ∧ t'.place (.ofString brokenModule.path) = .ok ["pkg", "m.py"]
      ∧ packageTree.bytes? ["pkg", "m.py"] = some [120]
      ∧ t'.bytes? ["pkg", "m.py"] = some (Utf8.encode brokenModule.content)
      ∧ t'.bytes? ["pkg", "m.py"] ≠ packageTree.bytes? ["pkg", "m.py"] := by
  intro w t'
  have hbytes : t'.bytes? ["pkg", "m.py"] = some (Utf8.encode brokenModule.content) := rfl
  refine ⟨rfl, by decide, by decide, rfl, rfl, hbytes, ?_⟩
  rw [hbytes]
  have hencoded : Utf8.encode brokenModule.content ≠ [120] := by decide +kernel
  exact fun hsame => hencoded (Option.some.inj hsame)

end Writer

end SmithyGen
