import Mathlib.Data.List.Nodup
import Mathlib.Tactic.SplitIfs
import SmithyGen.FileTree
import SmithyGen.Proofs.Outcome

namespace SmithyGen.FileTree

variable {t t' : FileTree}

@[simp] theorem node?_nil (t : FileTree) : t.node? [] = some .directory := rfl

theorem ne_nil_of_node?_ne {q : Place} (h : t.node? q ≠ some .directory) : q ≠ [] := by
  rintro rfl
  exact h rfl

theorem node?_eq_none_iff {p : Place} (h : p ≠ []) :
    t.node? p = none ↔ p ∉ t.nodes.map (·.1) := by
  rw [node?, if_neg h, ← Option.not_isSome_iff_eq_none, List.lookup_isSome_iff]
  simp only [List.mem_map, beq_iff_eq, @eq_comm _ p]

/-- The bytes of the file at a place. -/
def bytes? (t : FileTree) (p : Place) : Option (List UInt8) :=
  match t.node? p with
  | some (.file bytes) => some bytes
  | _ => none

theorem bytes?_eq_some {p : Place} {bytes : List UInt8} :
    t.bytes? p = some bytes ↔ t.node? p = some (.file bytes) := by
  unfold bytes?
  split
  next h => simp [h]
  next h => simpa using h bytes

/-- Every node stands in a directory, and so does whoever works with the tree. -/
structure IsRooted (t : FileTree) : Prop where
  workingDirectory : t.node? t.workingDirectory = some .directory
  parent : ∀ {p name n}, t.node? (p ++ [name]) = some n → t.node? p = some .directory

/-- Nothing stands below a place where nothing stands. -/
theorem IsRooted.node?_append (h : t.IsRooted) {p : Place} (hp : t.node? p = none)
    (names : List String) : t.node? (p ++ names) = none := by
  induction names generalizing p with
  | nil => simpa using hp
  | cons name names ih =>
    rw [List.append_cons]
    apply ih
    by_contra hne
    obtain ⟨n, hn⟩ := Option.ne_none_iff_exists'.mp hne
    rw [h.parent hn] at hp
    cases hp

/-- It is enough to look at the nodes that a tree lists. -/
theorem isRooted_iff : t.IsRooted ↔ t.node? t.workingDirectory = some .directory
    ∧ ∀ entry ∈ t.nodes, t.node? entry.1.dropLast = some .directory := by
  constructor
  · intro h
    refine ⟨h.workingDirectory, ?_⟩
    intro entry hentry
    rcases List.eq_nil_or_concat entry.1 with hnil | ⟨p, name, hp⟩
    · simp [hnil]
    · rw [List.concat_eq_append] at hp
      have hlisted : t.node? (p ++ [name]) ≠ none := by
        rw [Ne, node?_eq_none_iff (by simp), not_not, ← hp]
        exact List.mem_map_of_mem hentry
      obtain ⟨n, hn⟩ := Option.ne_none_iff_exists'.mp hlisted
      rw [hp, List.dropLast_concat]
      exact h.parent hn
  · rintro ⟨hworking, hnodes⟩
    refine ⟨hworking, ?_⟩
    intro p name n hn
    have hlisted : p ++ [name] ∈ t.nodes.map (·.1) := by
      by_contra hmem
      rw [(node?_eq_none_iff (by simp)).mpr hmem] at hn
      cases hn
    obtain ⟨entry, hentry, he⟩ := List.mem_map.mp hlisted
    simpa [he] using hnodes entry hentry

instance (t : FileTree) : Decidable t.IsRooted := decidable_of_iff _ isRooted_iff.symm

/-- Where names lead from a place on. -/
abbrev walk (t : FileTree) (p : Place) (names : List String) : Except Refusal Place :=
  names.foldlM t.step p

theorem step_eq_ok {p q : Place} {name : String} :
    t.step p name = .ok q ↔ t.node? p = some .directory ∧ ¬ nameLimit < name.utf8ByteSize
      ∧ q = if name == ".." then p.dropLast else p ++ [name] := by
  unfold step
  split
  next h =>
    by_cases hname : nameLimit < name.utf8ByteSize
    · simp [hname]
    · simp only [hname, if_false, h, true_and, not_false_iff, Except.ok.injEq]
      exact eq_comm
  next h => simp [h]
  next h => simp [h]

theorem eq_of_step {p q : Place} {name : String} (h : t.step p name = .ok q)
    (hname : name ≠ "..") : q = p ++ [name] := by
  obtain ⟨-, -, rfl⟩ := step_eq_ok.mp h
  simp [hname]

theorem walk_cons_eq_ok {p q : Place} {name : String} {names : List String} :
    t.walk p (name :: names) = .ok q ↔ ∃ d, t.step p name = .ok d ∧ t.walk d names = .ok q := by
  rw [walk, List.foldlM_cons, Outcome.bind_eq_ok]

theorem walk_append {p : Place} {names more : List String} :
    t.walk p (names ++ more) = t.walk p names >>= (t.walk · more) :=
  List.foldlM_append

theorem walk_concat_eq_ok {p q : Place} {names : List String} {name : String} :
    t.walk p (names ++ [name]) = .ok q ↔ ∃ d, t.walk p names = .ok d ∧ t.step d name = .ok q := by
  rw [walk_append, Outcome.bind_eq_ok]
  simp [walk]

theorem place_eq_ok {p : FilePath} {q : Place} :
    t.place p = .ok q ↔ (p.hasNull = false ∧ p.toString.utf8ByteSize < pathLimit)
      ∧ t.walk (t.start p) p.parts = .ok q := by
  unfold place
  split_ifs with hnull hlength
  · simp [hnull]
  · simp [hnull, hlength, walk]
  · simp [hlength]

theorem step_of_place_concat {p : FilePath} {name : String} {b q : Place}
    (h : t.place ⟨p.root, p.parts ++ [name]⟩ = .ok q) (hb : t.place p = .ok b) :
    t.step b name = .ok q := by
  obtain ⟨b', hb', hstep⟩ := walk_concat_eq_ok.mp (place_eq_ok.mp h).2
  obtain rfl : b = b' := Except.ok.inj ((place_eq_ok.mp hb).2.symm.trans hb')
  exact hstep

theorem place_concat_cases {root last : String} {names : List String}
    {q : Place} (h : t.place ⟨root, names ++ [last]⟩ = .ok q) (hlast : last ≠ "..") :
    ∃ d, t.walk (t.start ⟨root, names⟩) names = .ok d ∧ t.node? d = some .directory
      ∧ q = d ++ [last] := by
  obtain ⟨d, hd, hq⟩ := walk_concat_eq_ok.mp (place_eq_ok.mp h).2
  exact ⟨d, hd, (step_eq_ok.mp hq).1, eq_of_step hq hlast⟩

theorem eq_append_of_walk {p q : Place} {names : List String} (h : t.walk p names = .ok q)
    (hnames : ".." ∉ names) : q = p ++ names := by
  induction names generalizing p with
  | nil => simpa [walk, pure, Except.pure] using h.symm
  | cons name names ih =>
    obtain ⟨d, hd, h⟩ := walk_cons_eq_ok.mp h
    obtain rfl := eq_of_step hd fun he => hnames (by simp [he])
    rw [ih h fun hm => hnames (List.mem_cons_of_mem _ hm)]
    simp

/-- All directories of a tree are directories of another, which starts at the same place. -/
structure KeepsDirectories (t t' : FileTree) : Prop where
  workingDirectory : t'.workingDirectory = t.workingDirectory
  directory : ∀ {r}, t.node? r = some .directory → t'.node? r = some .directory

theorem KeepsDirectories.walk (h : KeepsDirectories t t') {p q : Place} {names : List String}
    (hq : t.walk p names = .ok q) : t'.walk p names = .ok q := by
  induction names generalizing p with
  | nil => exact hq
  | cons name names ih =>
    obtain ⟨d, hd, hq⟩ := walk_cons_eq_ok.mp hq
    obtain ⟨hp, hname, hd⟩ := step_eq_ok.mp hd
    have hstep : t'.step p name = .ok d := step_eq_ok.mpr ⟨h.directory hp, hname, hd⟩
    exact walk_cons_eq_ok.mpr ⟨d, hstep, ih hq⟩

theorem KeepsDirectories.start (h : KeepsDirectories t t') (p : FilePath) :
    t'.start p = t.start p := by
  rw [FileTree.start, FileTree.start, h.workingDirectory]

theorem KeepsDirectories.place (h : KeepsDirectories t t') {p : FilePath} {q : Place}
    (hq : t.place p = .ok q) : t'.place p = .ok q := by
  obtain ⟨hlength, hq⟩ := place_eq_ok.mp hq
  exact place_eq_ok.mpr ⟨hlength, by rw [h.start]; exact h.walk hq⟩

/-- A path that leads somewhere leads to a directory or into one. -/
theorem IsRooted.place_cases (h : t.IsRooted) {p : FilePath} {q : Place} (hq : t.place p = .ok q) :
    t.node? q = some .directory
      ∨ ∃ d name, q = d ++ [name] ∧ t.node? d = some .directory := by
  obtain ⟨-, hq⟩ := place_eq_ok.mp hq
  rcases List.eq_nil_or_concat p.parts with hnil | ⟨names, name, hparts⟩
  · rw [hnil] at hq
    obtain rfl : t.start p = q := Except.ok.inj hq
    left
    unfold start
    split_ifs
    · rfl
    · exact h.workingDirectory
  · rw [hparts, List.concat_eq_append, walk_concat_eq_ok] at hq
    obtain ⟨d, -, hq⟩ := hq
    obtain ⟨hd, -, rfl⟩ := step_eq_ok.mp hq
    split_ifs
    · -- two dots lead to the directory above, or stay at the root
      left
      rcases List.eq_nil_or_concat d with rfl | ⟨e, name', rfl⟩
      · rfl
      · rw [List.concat_eq_append] at hd
        simpa using h.parent hd
    · exact Or.inr ⟨d, name, rfl, hd⟩

theorem IsRooted.put (h : t.IsRooted) {p : FilePath} {q : Place} (hq : t.place p = .ok q)
    (hnode : t.node? q ≠ some .directory) (n : Node) : (t.put q n).IsRooted := by
  obtain ⟨d, name, rfl, hd⟩ := (h.place_cases hq).resolve_left hnode
  have hkeep : ∀ {r}, t.node? r = some .directory → (t.put (d ++ [name]) n).node? r = some .directory := by
    intro r hr
    rwa [node?_put_of_ne]
    rintro rfl
    exact hnode hr
  refine ⟨hkeep h.workingDirectory, ?_⟩
  intro r last m hm
  by_cases he : r ++ [last] = d ++ [name]
  · obtain ⟨rfl, -⟩ := List.append_inj' he rfl
    exact hkeep hd
  · rw [node?_put_of_ne _ _ he] at hm
    exact hkeep (h.parent hm)

/-- What a change did at each place: nothing, or it made a directory where nothing stood, or it
wrote a file where no directory stood. -/
structure Change (made written : Place → Prop) (t t' : FileTree) : Prop where
  workingDirectory : t'.workingDirectory = t.workingDirectory
  node? : ∀ r, t'.node? r = t.node? r
    ∨ made r ∧ t.node? r = none ∧ t'.node? r = some .directory
    ∨ written r ∧ t.node? r ≠ some .directory ∧ ∃ bytes, t'.node? r = some (.file bytes)
  isRooted : t.IsRooted → t'.IsRooted

namespace Change

variable {made written made' written' : Place → Prop}

theorem refl (made written : Place → Prop) (t : FileTree) : Change made written t t :=
  ⟨rfl, fun _ => Or.inl rfl, id⟩

theorem mono (h : Change made written t t') (hmade : ∀ r, made r → made' r)
    (hwritten : ∀ r, written r → written' r) : Change made' written' t t' where
  workingDirectory := h.workingDirectory
  node? r := (h.node? r).imp_right <| Or.imp (And.imp_left (hmade r)) (And.imp_left (hwritten r))
  isRooted := h.isRooted

theorem keepsDirectories (h : Change made written t t') : KeepsDirectories t t' where
  workingDirectory := h.workingDirectory
  directory := by
    intro r hr
    rcases h.node? r with hsame | ⟨-, hnone, -⟩ | ⟨-, hne, -⟩
    · rw [hsame, hr]
    · rw [hr] at hnone
      cases hnone
    · exact absurd hr hne

theorem place (h : Change made written t t') {p : FilePath} {q : Place} (hq : t.place p = .ok q) :
    t'.place p = .ok q :=
  h.keepsDirectories.place hq

theorem trans {t'' : FileTree} (h : Change made written t t') (h' : Change made written t' t'') :
    Change made written t t'' where
  workingDirectory := h'.workingDirectory.trans h.workingDirectory
  node? r := by
    rcases h'.node? r with hsame | ⟨hmade, hnone, hdir⟩ | ⟨hwritten, hne, hfile⟩
    · rw [hsame]
      exact h.node? r
    · rcases h.node? r with hsame | ⟨-, -, hdir'⟩ | ⟨-, -, bytes, hfile⟩
      · exact Or.inr (Or.inl ⟨hmade, hsame ▸ hnone, hdir⟩)
      · rw [hdir'] at hnone
        cases hnone
      · rw [hfile] at hnone
        cases hnone
    · have hold : t.node? r ≠ some .directory := fun hr => hne (h.keepsDirectories.directory hr)
      exact Or.inr (Or.inr ⟨hwritten, hold, hfile⟩)
  isRooted := h'.isRooted ∘ h.isRooted

theorem bytes? (h : Change made written t t') {r : Place} (hr : ¬ written r) :
    t'.bytes? r = t.bytes? r := by
  unfold FileTree.bytes?
  rcases h.node? r with hsame | ⟨-, hnone, hdir⟩ | ⟨hwritten, -⟩
  · rw [hsame]
  · rw [hnone, hdir]
  · exact absurd hwritten hr

theorem put_file {p : FilePath} {q : Place} (hq : t.place p = .ok q)
    (hnode : t.node? q ≠ some .directory) (bytes : List UInt8) :
    Change made (· = q) t (t.put q (.file bytes)) where
  workingDirectory := rfl
  node? r := by
    by_cases hr : r = q
    · subst hr
      exact Or.inr (Or.inr ⟨rfl, hnode, bytes, node?_put_self t _ (ne_nil_of_node?_ne hnode)⟩)
    · exact Or.inl (node?_put_of_ne t _ hr)
  isRooted h := h.put hq hnode _

theorem put_directory {p : FilePath} {q : Place} (hq : t.place p = .ok q)
    (hnode : t.node? q = none) : Change (· = q) written t (t.put q .directory) where
  workingDirectory := rfl
  node? r := by
    by_cases hr : r = q
    · subst hr
      have hne : t.node? r ≠ some .directory := by simp [hnode]
      exact Or.inr (Or.inl ⟨rfl, hnode, node?_put_self t _ (ne_nil_of_node?_ne hne)⟩)
    · exact Or.inl (node?_put_of_ne t _ hr)
  isRooted h := h.put hq (by simp [hnode]) _

end Change

theorem write_eq_ok {p : FilePath} {bytes : List UInt8} :
    t.write p bytes = .ok t' ↔ ∃ q, t.place p = .ok q ∧ t.node? q ≠ some .directory
      ∧ t' = t.put q (.file bytes) := by
  unfold write
  rw [Outcome.bind_eq_ok]
  refine exists_congr fun q => and_congr_right fun _ => ?_
  split
  next h => simp [h]
  next h =>
    have hne : t.node? q ≠ some .directory := h
    simp [hne, pure, Except.pure, eq_comm]

theorem status_eq_ok {p : FilePath} {n : Node} :
    t.status p = .ok n ↔ ∃ q, t.place p = .ok q ∧ t.node? q = some n := by
  unfold status
  rw [Outcome.bind_eq_ok]
  refine exists_congr fun q => and_congr_right fun _ => ?_
  cases h : t.node? q with
  | none => simp
  | some m => simp [pure, Except.pure]

theorem isDirectory_iff {p : FilePath} :
    t.isDirectory p = true ↔ ∃ q, t.place p = .ok q ∧ t.node? q = some .directory := by
  rw [← status_eq_ok]
  unfold isDirectory
  split
  next h => simp [h]
  next h => simpa using h

theorem read_eq_ok {p : FilePath} {bytes : List UInt8} :
    t.read p = .ok bytes ↔ ∃ q, t.place p = .ok q ∧ t.node? q = some (.file bytes) := by
  unfold read
  simp only [Outcome.bind_eq_ok, status_eq_ok]
  constructor
  · rintro ⟨n, ⟨q, hq, hn⟩, h⟩
    cases n with
    | directory => cases h
    | file bytes' =>
      obtain rfl := Except.ok.inj h
      exact ⟨q, hq, hn⟩
  · rintro ⟨q, hq, hn⟩
    exact ⟨.file bytes, ⟨q, hq, hn⟩, rfl⟩

theorem find?_eq_some {p : FilePath} {n : Node} :
    t.find? p = .ok (some n) ↔ ∃ q, t.place p = .ok q ∧ t.node? q = some n := by
  rw [← status_eq_ok]
  unfold find?
  split
  next h => simp [h]
  next h => simp [h]
  next h => simp [h]
  next h => simp [h]

theorem find?_of_read {p : FilePath} {bytes : List UInt8} (h : t.read p = .ok bytes) :
    t.find? p = .ok (some (.file bytes)) :=
  find?_eq_some.mpr (read_eq_ok.mp h)

theorem read_of_find? {p : FilePath} {bytes : List UInt8}
    (h : t.find? p = .ok (some (.file bytes))) : t.read p = .ok bytes :=
  read_eq_ok.mpr (find?_eq_some.mp h)

theorem isFile_of_read {p : FilePath} {bytes : List UInt8} (h : t.read p = .ok bytes) :
    t.isFile p = true := by
  obtain ⟨q, hq, hn⟩ := read_eq_ok.mp h
  have hstatus := status_eq_ok.mpr ⟨q, hq, hn⟩
  simp [isFile, hstatus]

section Directories

theorem makeDirectory_change {p : FilePath} (h : t.makeDirectory p = .ok t')
    (written : Place → Prop) : Change (fun r => t'.place p = .ok r) written t t' := by
  obtain ⟨q, hq, h⟩ := Outcome.bind_eq_ok.mp h
  cases hnode : t.node? q with
  | some n =>
    rw [hnode] at h
    cases h
  | none =>
    obtain rfl : t.put q .directory = t' := by
      simpa [hnode, pure, Except.pure] using h
    have hchange : Change (· = q) written t (t.put q .directory) := Change.put_directory hq hnode
    exact hchange.mono (by rintro r rfl; exact hchange.place hq) (fun _ => id)

theorem ensureDirectory_change (t : FileTree) (p : FilePath) (written : Place → Prop) :
    Change (fun r => (t.ensureDirectory p).1.place p = .ok r) written t
      (t.ensureDirectory p).1 := by
  unfold ensureDirectory
  split
  next t' h => exact makeDirectory_change h written
  · exact Change.refl ..
  · exact Change.refl ..

/-- The place is that of the first parts of a path. -/
def IsAlong (t : FileTree) (p : FilePath) (r : Place) : Prop :=
  ∃ n, t.place ⟨p.root, p.parts.take n⟩ = .ok r

theorem Change.isAlong {made written : Place → Prop} (h : Change made written t t')
    {p : FilePath} {r : Place} (hr : t.IsAlong p r) : t'.IsAlong p r :=
  hr.imp fun _ hn => h.place hn

theorem makeDirectoriesTo_change (t : FileTree) (p : FilePath) (n : Nat)
    (written : Place → Prop) :
    Change ((t.makeDirectoriesTo p n).1.IsAlong p) written t (t.makeDirectoriesTo p n).1 := by
  induction n with
  | zero =>
    exact (ensureDirectory_change t ⟨p.root, []⟩ written).mono (fun r hr => ⟨0, hr⟩) fun _ => id
  | succ n ih =>
    rw [makeDirectoriesTo]
    split
    next t' h =>
      exact (makeDirectory_change h written).mono (fun r hr => ⟨n + 1, hr⟩) fun _ => id
    next h =>
      split
      next t' hbelow =>
        -- the directories above are made, and this one is made in them
        rw [hbelow] at ih
        have hlast := ensureDirectory_change t' ⟨p.root, p.parts.take (n + 1)⟩ written
        exact (ih.mono (fun r hr => hlast.isAlong hr) fun _ => id).trans
          (hlast.mono (fun r hr => ⟨n + 1, hr⟩) fun _ => id)
      next => exact ih
    next => exact Change.refl ..

/-- Making a directory and all above it adds only directories along the path. -/
theorem makeDirectories_change (t : FileTree) (p : FilePath) (written : Place → Prop) :
    Change ((t.makeDirectories p).1.IsAlong p) written t (t.makeDirectories p).1 :=
  makeDirectoriesTo_change t p _ written

end Directories

section Fresh

theorem ofDigitChars_replicate_zero (k : Nat) (ds : List Char) :
    Nat.ofDigitChars 10 (List.replicate k '0' ++ ds) 0 = Nat.ofDigitChars 10 ds 0 := by
  induction k with
  | zero => rfl
  | succ k ih => exact ih

theorem temporaryName_injective (name : String) : (temporaryName name).Injective := by
  intro m n h
  have hlist := congrArg String.toList h
  simp only [temporaryName, String.toList_append, String.toList_ofList, List.append_assoc,
    List.append_cancel_left_eq] at hlist
  rw [← List.append_assoc, ← List.append_assoc, List.append_cancel_right_eq] at hlist
  have hvalue := congrArg (Nat.ofDigitChars 10 · 0) hlist
  simpa [ofDigitChars_replicate_zero, ToString.toString] using hvalue

/-- A name for a temporary file is free: there are more candidates than nodes. -/
theorem node?_freshName (t : FileTree) (directory : Place) (name : String) :
    t.node? (directory ++ [t.freshName directory name]) = none := by
  let candidates := (List.range (t.nodes.length + 1)).map (temporaryName name)
  -- were all candidates taken, they would be more nodes than there are
  have hfree : ∃ c ∈ candidates, (t.node? (directory ++ [c])).isNone = true := by
    by_contra! htaken
    have hsubset : candidates.map (fun c => directory ++ [c]) ⊆ t.nodes.map (·.1) := by
      intro p hp
      obtain ⟨c, hc, rfl⟩ := List.mem_map.mp hp
      by_contra hmem
      rw [← node?_eq_none_iff (by simp)] at hmem
      exact htaken c hc (by simp [hmem])
    have hnodup : (candidates.map fun c => directory ++ [c]).Nodup := by
      rw [List.map_map]
      refine List.Nodup.map ?_ List.nodup_range
      intro m n h
      exact temporaryName_injective name (by simpa using h)
    have hlength := hnodup.length_le_of_subset hsubset
    simp only [candidates, List.length_map, List.length_range] at hlength
    omega
  obtain ⟨c, hc⟩ := Option.isSome_iff_exists.mp (List.find?_isSome.mpr hfree)
  have hname : t.freshName directory name = c := by
    change (candidates.find? _).getD _ = c
    rw [hc]
    rfl
  rw [hname]
  simpa using List.find?_some hc

theorem exists_freshName_eq (t : FileTree) (directory : Place) (name : String) :
    ∃ n, t.freshName directory name = temporaryName name n := by
  change ∃ n, (List.find? _ ((List.range (t.nodes.length + 1)).map _)).getD _ = _
  cases h : List.find? (fun c => (t.node? (directory ++ [c])).isNone)
      ((List.range (t.nodes.length + 1)).map (temporaryName name)) with
  | none => exact ⟨0, rfl⟩
  | some c =>
    obtain ⟨n, -, rfl⟩ := List.mem_map.mp (List.mem_of_find?_eq_some h)
    exact ⟨n, rfl⟩

theorem temporaryName_ne_parent (name : String) (n : Nat) : temporaryName name n ≠ ".." := by
  intro h
  have hlast := congrArg (fun s => s.toList.getLast?) h
  simp only [temporaryName, String.toList_append] at hlast
  rw [List.getLast?_append] at hlast
  simp at hlast

theorem node?_of_step_freshName {directory q : Place} {name : String}
    (h : t.step directory (t.freshName directory name) = .ok q) : t.node? q = none := by
  obtain ⟨-, -, rfl⟩ := step_eq_ok.mp h
  have hname : (t.freshName directory name == "..") = false := by
    obtain ⟨n, hn⟩ := exists_freshName_eq t directory name
    simpa [hn] using temporaryName_ne_parent name n
  rw [hname]
  exact node?_freshName t directory name

/-- A node put at a free place and taken away again leaves no trace. -/
theorem erase_put_of_free {p : Place} (h : t.node? p = none) (n : Node) :
    (t.put p n).erase p = t := by
  have hp : p ≠ [] := ne_nil_of_node?_ne (t := t) (by simp [h])
  have hkeep : t.nodes.filter (·.1 != p) = t.nodes := by
    rw [List.filter_eq_self]
    intro entry hentry
    have hne : entry.1 ≠ p := by
      rintro rfl
      exact (node?_eq_none_iff hp).mp h (List.mem_map_of_mem hentry)
    simpa using hne
  simp [put, erase, hkeep]

end Fresh

theorem move_cases {source : Place} {target : FilePath} (h : t.move source target = .ok t') :
    isNamed target = true ∧ ∃ q n, t.place target = .ok q ∧ t.node? q ≠ some .directory
      ∧ t.node? source = some n ∧ t' = (t.erase source).put q n := by
  unfold move at h
  split_ifs at h with hnamed
  · obtain ⟨q, hq, h⟩ := Outcome.bind_eq_ok.mp h
    refine ⟨hnamed, q, ?_⟩
    split at h
    next => cases h
    next n hn hne => exact ⟨n, hq, hne, hn, (Except.ok.inj h).symm⟩
    next => cases h
  · cases h

end SmithyGen.FileTree
