import Mathlib.Data.List.Sort
import Mathlib.Data.String.Basic
import SmithyGen.Proofs.ImportLines

namespace SmithyGen.Imports

theorem pairwise_eraseDups : (xs : List String) → xs.Pairwise (· ≤ ·) →
    xs.eraseDups.Pairwise (· < ·)
  | [], _ => List.Pairwise.nil
  | x :: xs, h => by
    obtain ⟨hx, hxs⟩ := List.pairwise_cons.mp h
    rw [List.eraseDups_cons, List.pairwise_cons]
    refine ⟨fun y hy => ?_, pairwise_eraseDups _ (hxs.filter _)⟩
    obtain ⟨hmem, hother⟩ := List.mem_filter.mp (List.mem_eraseDups.mp hy)
    have hne : y ≠ x := by simpa using hother
    exact lt_of_le_of_ne (hx y hmem) hne.symm
termination_by xs => xs.length
decreasing_by
  have hle := List.length_filter_le (fun y => !(y == x)) xs
  rw [List.length_cons]
  omega

theorem pairwise_sorted (xs : List String) : (sorted xs).Pairwise (· < ·) :=
  pairwise_eraseDups _ (List.pairwise_mergeSort' (· ≤ ·) xs)

theorem sorted_congr {xs ys : List String} (h : ∀ x, x ∈ xs ↔ x ∈ ys) : sorted xs = sorted ys :=
  (pairwise_sorted xs).eq_of_mem_iff (pairwise_sorted ys) fun x => by simp [h]

section Pairs

variable {α : Type} {a b : α} {xs : List α}

/-- Two elements cannot follow each other both ways where all are different. -/
theorem false_of_pairs (hxs : xs.Nodup) (h : [a, b].Sublist xs) (h' : [b, a].Sublist xs) :
    False := by
  induction xs with
  | nil => cases h
  | cons x xs ih =>
    obtain ⟨hx, hxs⟩ := List.nodup_cons.mp hxs
    rcases List.sublist_cons_iff.mp h with hrest | ⟨ys, heq, hys⟩
    · rcases List.sublist_cons_iff.mp h' with hrest' | ⟨zs, heq', -⟩
      · exact ih hxs hrest hrest'
      · exact hx ((List.cons.inj heq').1 ▸ hrest.subset (by simp))
    · obtain ⟨rfl, rfl⟩ := List.cons.inj heq
      rcases List.sublist_cons_iff.mp h' with hrest' | ⟨zs, heq', -⟩
      · exact hx (hrest'.subset (by simp))
      · exact hx ((List.cons.inj heq').1 ▸ hys.subset (by simp))

theorem pair_sublist_or (hne : a ≠ b) (ha : a ∈ xs) (hb : b ∈ xs) :
    [a, b].Sublist xs ∨ [b, a].Sublist xs := by
  obtain ⟨front, back, rfl⟩ := List.append_of_mem ha
  rcases List.mem_append.mp hb with hb | hb
  · exact .inr ((List.singleton_sublist.mpr hb).append (List.singleton_sublist.mpr (by simp)))
  · have hb : b ∈ back := (List.mem_cons.mp hb).resolve_left (Ne.symm hne)
    exact .inl (((List.singleton_sublist.mpr hb).cons_cons a).trans
      (List.sublist_append_right _ _))

end Pairs

/-- One line stands before another: its module comes first, or it imports as it is the module that
the other one takes names from. So no module has two lines of one kind. -/
def Line.Precedes (a b : Line) : Prop :=
  a.module < b.module ∨ ∃ names, a = .whole b.module ∧ b = .named b.module names

theorem Line.Precedes.ne {a b : Line} (h : a.Precedes b) : a ≠ b := by
  rintro rfl
  rcases h with h | ⟨names, hwhole, hnamed⟩
  · exact lt_irrefl _ h
  · rw [hwhole] at hnamed
    cases hnamed

theorem pairwise_arranged {modules : List String} {rows : List (String × List String)}
    (hmodules : modules.Pairwise (· < ·)) (hrows : (rows.map (·.1)).Pairwise (· < ·)) :
    (arranged (modules.map Line.whole ++ rows.map Line.ofRow)).Pairwise Line.Precedes := by
  generalize hls : modules.map Line.whole ++ rows.map Line.ofRow = ls
  have hsame : ls.Pairwise fun a b => a.module = b.module → a.Precedes b := by
    rw [← hls, List.pairwise_append, List.pairwise_map, List.pairwise_map]
    refine ⟨hmodules.imp fun h _ => .inl h, (List.pairwise_map.mp hrows).imp fun h _ => .inl h, ?_⟩
    intro a ha b hb hab
    obtain ⟨m, -, rfl⟩ := List.mem_map.mp ha
    obtain ⟨row, -, rfl⟩ := List.mem_map.mp hb
    exact .inr ⟨row.2, congrArg Line.whole hab, rfl⟩
  have hnodup : ls.Nodup := hsame.imp fun h he => (h (congrArg Line.module he)).ne he
  have htrans : ∀ a b c : Line, decide (a.module ≤ b.module) = true →
      decide (b.module ≤ c.module) = true → decide (a.module ≤ c.module) = true := by
    simpa using fun a b c => le_trans
  have htotal : ∀ a b : Line,
      (decide (a.module ≤ b.module) || decide (b.module ≤ a.module)) = true := by
    simpa using fun a b => le_total _ _
  have hperm : (arranged ls).Perm ls := List.mergeSort_perm _ _
  rw [List.pairwise_iff_forall_sublist]
  intro a b hab
  have hle : a.module ≤ b.module := by
    simpa using List.pairwise_iff_forall_sublist.mp (List.pairwise_mergeSort htrans htotal ls) hab
  rcases lt_or_eq_of_le hle with hlt | heq
  · exact .inl hlt
  · -- Lines of one module keep their order.
    have hne : a ≠ b := by simpa using (hperm.nodup_iff.mpr hnodup).sublist hab
    have hmem : ∀ l ∈ [a, b], l ∈ ls := fun l hl => hperm.mem_iff.mp (hab.subset hl)
    rcases pair_sublist_or hne (hmem a (by simp)) (hmem b (by simp)) with hpair | hpair
    · exact List.pairwise_iff_forall_sublist.mp hsame hpair heq
    · have hback : [b, a].Sublist (arranged ls) :=
        List.pair_sublist_mergeSort htrans htotal (by simpa using heq.symm.le) hpair
      exact (false_of_pairs (hperm.nodup_iff.mpr hnodup) hab hback).elim

/-- What may be asked for: a module as it is, a name from a module, or a name from a relative
module. -/
inductive Request where
  | whole (module : String)
  | name (module name : String)
  | relative (module name : String)
deriving DecidableEq

/-- A step by which imports are asked for. -/
inductive Step where
  | absolute (module : String) (names : List String)
  | relative (module : String) (names : List String) (level : Nat)

namespace Step

def take (i : Imports) : Step → Imports
  | absolute module names => i.add module names
  | relative module names level => i.addRelative module names level

def requests : Step → List Request
  | absolute module names => if names.isEmpty then [.whole module] else names.map (.name module)
  | relative module names level =>
    names.map (.relative (String.ofList (List.replicate level '.') ++ module))

/-- A module is a word, and from a relative one something is taken. -/
def IsProper : Step → Prop
  | absolute module _ => IsWord module
  | relative _ names _ => names ≠ []

instance : (s : Step) → Decidable s.IsProper
  | absolute module _ => inferInstanceAs (Decidable (IsWord module))
  | relative _ names _ => inferInstanceAs (Decidable (names ≠ []))

end Step

def ofSteps (steps : List Step) : Imports := steps.foldl Step.take {}

def requested (steps : List Step) : List Request := steps.flatMap Step.requests

/-- Some of the names asked for from a module. -/
def Offers (rows : List (String × List String)) (module name : String) : Prop :=
  ∃ names, (module, names) ∈ rows ∧ name ∈ names

def Asks (i : Imports) : Request → Prop
  | .whole module => module ∈ i.modules
  | .name module name => Offers i.names module name
  | .relative module name => Offers i.relative module name

theorem offers_concat {rows : List (String × List String)} {row : String × List String}
    {module name : String} :
    Offers (rows ++ [row]) module name
      ↔ Offers rows module name ∨ module = row.1 ∧ name ∈ row.2 := by
  simp only [Offers, List.mem_append, List.mem_singleton]
  constructor
  · rintro ⟨names, hrow | rfl, hname⟩
    · exact .inl ⟨names, hrow, hname⟩
    · exact .inr ⟨rfl, hname⟩
  · rintro (⟨names, hrow, hname⟩ | ⟨rfl, hname⟩)
    · exact ⟨names, .inl hrow, hname⟩
    · exact ⟨row.2, .inr rfl, hname⟩

theorem asks_take (i : Imports) (s : Step) (r : Request) :
    (s.take i).Asks r ↔ i.Asks r ∨ r ∈ s.requests := by
  cases s with
  | absolute module names =>
    rw [Step.take, Imports.add, Step.requests]
    split_ifs with hnames
    · cases r <;> simp [Asks]
    · cases r <;> simp [Asks, offers_concat, and_comm, eq_comm]
  | relative module names level =>
    cases r <;> simp [Step.take, addRelative, Step.requests, Asks, offers_concat, and_comm, eq_comm]

theorem asks_ofSteps (steps : List Step) (r : Request) :
    (ofSteps steps).Asks r ↔ r ∈ requested steps := by
  have hsteps : ∀ i : Imports,
      (steps.foldl Step.take i).Asks r ↔ i.Asks r ∨ r ∈ requested steps := by
    induction steps with
    | nil => simp [requested]
    | cons s steps ih =>
      intro i
      rw [List.foldl_cons, ih, asks_take, or_assoc]
      simp [requested]
  have hnone : ¬ Asks {} r := by cases r <;> simp [Asks, Offers]
  rw [ofSteps, hsteps, or_iff_right hnone]

/-- Imports that have lines, and take something from each module with names. -/
structure IsSound (i : Imports) : Prop extends AsksForWords i where
  some_name : ∀ row ∈ i.names, row.2 ≠ []
  some_relative : ∀ row ∈ i.relative, row.2 ≠ []

theorem IsSound.take {i : Imports} (h : IsSound i) {s : Step} (hs : s.IsProper) :
    IsSound (s.take i) := by
  cases s with
  | absolute module names =>
    refine ⟨h.toAsksForWords.add hs names, ?_, ?_⟩
    · rw [Step.take, Imports.add]
      split_ifs with hnames
      · exact h.some_name
      · exact List.forall_mem_append.mpr ⟨h.some_name, by simpa using hnames⟩
    · rw [Step.take, Imports.add]
      split_ifs <;> exact h.some_relative
  | relative module names level =>
    exact ⟨h.toAsksForWords.addRelative module names level, h.some_name,
      List.forall_mem_append.mpr ⟨h.some_relative, List.forall_mem_singleton.mpr hs⟩⟩

theorem isSound_ofSteps {steps : List Step} (h : ∀ s ∈ steps, s.IsProper) :
    IsSound (ofSteps steps) := by
  have hsteps : ∀ i : Imports, IsSound i → IsSound (steps.foldl Step.take i) := by
    induction steps with
    | nil => exact fun _ hi => hi
    | cons s steps ih =>
      exact fun i hi => ih (fun t ht => h t (List.mem_cons_of_mem s ht)) _
        (hi.take (h s List.mem_cons_self))
  exact hsteps {} ⟨asksForWords_empty, by simp, by simp⟩

def namesFrom (rows : List (String × List String)) (module : String) : List String :=
  sorted ((rows.filter (·.1 == module)).flatMap (·.2))

theorem mem_namesFrom {rows : List (String × List String)} {module name : String} :
    name ∈ namesFrom rows module ↔ Offers rows module name := by
  simp [namesFrom, Offers]

theorem mem_modules_iff {rows : List (String × List String)} (h : ∀ row ∈ rows, row.2 ≠ [])
    {module : String} : module ∈ rows.map (·.1) ↔ ∃ name, Offers rows module name := by
  constructor
  · intro hm
    obtain ⟨row, hrow, rfl⟩ := List.mem_map.mp hm
    obtain ⟨name, hname⟩ := List.exists_mem_of_ne_nil _ (h row hrow)
    exact ⟨name, row.2, hrow, hname⟩
  · rintro ⟨name, names, hrow, -⟩
    exact List.mem_map.mpr ⟨_, hrow, rfl⟩

theorem mem_gathered {rows : List (String × List String)} (h : ∀ row ∈ rows, row.2 ≠ [])
    {row : String × List String} :
    row ∈ gathered rows ↔ (∃ name, Offers rows row.1 name) ∧ row.2 = namesFrom rows row.1 := by
  rw [← mem_modules_iff h, ← mem_sorted]
  constructor
  · intro hrow
    obtain ⟨m, hm, rfl⟩ := List.mem_map.mp hrow
    exact ⟨hm, rfl⟩
  · rintro ⟨hm, hnames⟩
    exact List.mem_map.mpr ⟨row.1, hm, Prod.ext rfl hnames.symm⟩

theorem pairwise_gathered (rows : List (String × List String)) :
    ((gathered rows).map (·.1)).Pairwise (· < ·) := by
  simpa [gathered, Function.comp_def] using pairwise_sorted (rows.map (·.1))

/-- What is gathered depends on what is offered only. -/
theorem gathered_congr {xs ys : List (String × List String)} (hx : ∀ row ∈ xs, row.2 ≠ [])
    (hy : ∀ row ∈ ys, row.2 ≠ []) (h : ∀ m n, Offers xs m n ↔ Offers ys m n) :
    gathered xs = gathered ys := by
  have hmodules : sorted (xs.map (·.1)) = sorted (ys.map (·.1)) :=
    sorted_congr fun m => by simp only [mem_modules_iff hx, mem_modules_iff hy, h]
  have hnames : ∀ m, namesFrom xs m = namesFrom ys m := fun m => by
    refine (pairwise_sorted _).eq_of_mem_iff (pairwise_sorted _) fun n => ?_
    exact mem_namesFrom.trans ((h m n).trans mem_namesFrom.symm)
  rw [gathered, gathered, hmodules]
  exact List.map_congr_left fun m _ => congrArg (Prod.mk m) (hnames m)

theorem groups_congr {i j : Imports} (hi : IsSound i) (hj : IsSound j)
    (h : ∀ r, i.Asks r ↔ j.Asks r) : i.groups = j.groups := by
  have hmodules : sorted i.modules = sorted j.modules := sorted_congr fun m => h (.whole m)
  have hnames : gathered i.names = gathered j.names :=
    gathered_congr hi.some_name hj.some_name fun m n => h (.name m n)
  have hrelative : gathered i.relative = gathered j.relative :=
    gathered_congr hi.some_relative hj.some_relative fun m n => h (.relative m n)
  simp only [groups, hmodules, hnames, hrelative]

def Line.takesFrom (module : String) : Line → Bool
  | .whole _ => false
  | .named m _ => m == module

/-- The lines of a group. They stand in order; each module asked for as it is has one line, and so
has each module from which names are asked for, with just these names, each once and in order; and
there are no other lines. -/
structure Lists (group : List Line) (whole : String → Prop) (named : String → String → Prop) :
    Prop where
  ordered : group.Pairwise Line.Precedes
  whole_once : ∀ m, whole m → group.filter (· = .whole m) = [.whole m]
  named_once : ∀ m, (∃ n, named m n) → ∃ names, group.filter (·.takesFrom m) = [.named m names]
    ∧ names.Pairwise (· < ·) ∧ ∀ n, n ∈ names ↔ named m n
  asked : ∀ l ∈ group, match l with
    | .whole m => whole m
    | .named m _ => ∃ n, named m n

theorem filter_eq_singleton {α : Type} {R : α → α → Prop} {p : α → Bool} {xs : List α} {x : α}
    (hxs : xs.Pairwise R) (hx : x ∈ xs) (hp : p x = true)
    (hR : ∀ a b, p a = true → p b = true → ¬ R a b) : xs.filter p = [x] := by
  have hmem : x ∈ xs.filter p := List.mem_filter.mpr ⟨hx, hp⟩
  have hall : ∀ a ∈ xs.filter p, p a = true := fun a ha => (List.mem_filter.mp ha).2
  have hpairs := hxs.filter p
  generalize xs.filter p = ys at hmem hall hpairs
  match ys with
  | [] => cases hmem
  | [y] => rw [List.mem_singleton.mp hmem]
  | a :: b :: rest =>
    have hab := List.rel_of_pairwise_cons hpairs (List.mem_cons_self (a := b))
    exact absurd hab (hR a b (hall a (by simp)) (hall b (by simp)))

theorem Line.not_precedes_of_takesFrom {m : String} {a b : Line} (ha : a.takesFrom m = true)
    (hb : b.takesFrom m = true) : ¬ a.Precedes b := by
  cases a with
  | whole _ => cases ha
  | named m' names =>
    cases b with
    | whole _ => cases hb
    | named m'' names' =>
      obtain rfl : m' = m := by simpa [takesFrom] using ha
      obtain rfl : m'' = m' := by simpa [takesFrom] using hb
      rintro (hlt | ⟨_, hwhole, -⟩)
      · exact lt_irrefl _ hlt
      · cases hwhole

theorem Lists.of_mem {group : List Line} {whole keep : String → Prop}
    {rows : List (String × List String)} (hordered : group.Pairwise Line.Precedes)
    (hmem : ∀ l, l ∈ group ↔ (∃ m, whole m ∧ l = .whole m)
      ∨ ∃ m, (keep m ∧ ∃ n, Offers rows m n) ∧ l = .named m (namesFrom rows m)) :
    Lists group whole fun m n => keep m ∧ Offers rows m n where
  ordered := hordered
  whole_once m hm := by
    refine filter_eq_singleton hordered ((hmem _).mpr (.inl ⟨m, hm, rfl⟩)) (by simp) ?_
    intro a b ha hb hab
    exact hab.ne ((of_decide_eq_true ha).trans (of_decide_eq_true hb).symm)
  named_once := by
    rintro m ⟨n, hkeep, hn⟩
    have hline : Line.named m (namesFrom rows m) ∈ group :=
      (hmem _).mpr (.inr ⟨m, ⟨hkeep, n, hn⟩, rfl⟩)
    refine ⟨namesFrom rows m, ?_, pairwise_sorted _, fun n' => ?_⟩
    · exact filter_eq_singleton hordered hline (by simp [Line.takesFrom])
        fun a b => Line.not_precedes_of_takesFrom
    · rw [mem_namesFrom, and_iff_right hkeep]
  asked l hl := by
    rcases (hmem l).mp hl with ⟨m, hm, rfl⟩ | ⟨m, ⟨hkeep, n, hn⟩, rfl⟩
    · exact hm
    · exact ⟨n, hkeep, hn⟩

theorem Lists.congr {group : List Line} {whole whole' : String → Prop}
    {named named' : String → String → Prop} (h : Lists group whole named)
    (hwhole : ∀ m, whole m ↔ whole' m) (hnamed : ∀ m n, named m n ↔ named' m n) :
    Lists group whole' named' := by
  obtain rfl : whole = whole' := funext fun m => propext (hwhole m)
  obtain rfl : named = named' := funext fun m => funext fun n => propext (hnamed m n)
  exact h

section Group

variable {rows : List (String × List String)}

theorem mem_wholes_iff (modules : List String) (p : String → Bool) (l : Line) :
    l ∈ ((sorted modules).filter p).map Line.whole
      ↔ ∃ m, (p m = true ∧ m ∈ modules) ∧ l = .whole m := by
  simp only [List.mem_map, List.mem_filter, mem_sorted]
  constructor
  · rintro ⟨m, ⟨hm, hp⟩, rfl⟩
    exact ⟨m, ⟨hp, hm⟩, rfl⟩
  · rintro ⟨m, ⟨hp, hm⟩, rfl⟩
    exact ⟨m, ⟨hm, hp⟩, rfl⟩

theorem mem_rows_iff (hrows : ∀ row ∈ rows, row.2 ≠ []) (q : String → Bool) (l : Line) :
    l ∈ ((gathered rows).filter fun row => q row.1).map Line.ofRow
      ↔ ∃ m, (q m = true ∧ ∃ n, Offers rows m n) ∧ l = .named m (namesFrom rows m) := by
  simp only [List.mem_map, List.mem_filter, mem_gathered hrows]
  constructor
  · rintro ⟨row, ⟨⟨hoffers, hnames⟩, hq⟩, rfl⟩
    exact ⟨row.1, ⟨hq, hoffers⟩, congrArg (Line.named row.1) hnames⟩
  · rintro ⟨m, ⟨hq, hoffers⟩, rfl⟩
    exact ⟨(m, namesFrom rows m), ⟨⟨hoffers, rfl⟩, hq⟩, rfl⟩

theorem pairwise_rows (rows : List (String × List String)) (q : String × List String → Bool) :
    (((gathered rows).filter q).map (·.1)).Pairwise (· < ·) :=
  (pairwise_gathered rows).sublist (List.filter_sublist.map _)

theorem lists_rows (hrows : ∀ row ∈ rows, row.2 ≠ []) (q : String → Bool) :
    Lists (((gathered rows).filter fun row => q row.1).map Line.ofRow) (fun _ => False)
      fun m n => q m = true ∧ Offers rows m n := by
  refine Lists.of_mem ?_ fun l => ?_
  · exact List.pairwise_map.mpr ((List.pairwise_map.mp (pairwise_rows rows _)).imp .inl)
  · simp [mem_rows_iff hrows]

theorem lists_arranged (modules : List String) (p : String → Bool)
    (hrows : ∀ row ∈ rows, row.2 ≠ []) (q : String → Bool) :
    Lists (arranged (((sorted modules).filter p).map Line.whole
        ++ ((gathered rows).filter fun row => q row.1).map Line.ofRow))
      (fun m => p m = true ∧ m ∈ modules) fun m n => q m = true ∧ Offers rows m n := by
  refine Lists.of_mem ?_ fun l => ?_
  · exact pairwise_arranged ((pairwise_sorted modules).filter p) (pairwise_rows rows _)
  · rw [arranged, List.mem_mergeSort, List.mem_append, mem_wholes_iff, mem_rows_iff hrows]

end Group

structure Groups.Hold (g : Groups) (asked : Request → Prop) : Prop where
  future : Lists g.future (fun _ => False) fun m n => m = "__future__" ∧ asked (.name m n)
  standard : Lists g.standard (fun m => m ∈ standardModules ∧ asked (.whole m))
    fun m n => m ∈ standardModules ∧ asked (.name m n)
  thirdParty : Lists g.thirdParty (fun m => m ∉ standardModules ∧ asked (.whole m))
    fun m n => (m ∉ standardModules ∧ m ≠ "__future__") ∧ asked (.name m n)
  siblings : Lists g.siblings (fun _ => False) fun m n => asked (.relative m n)

theorem IsSound.hold {i : Imports} (h : IsSound i) : i.groups.Hold i.Asks := by
  have hstandard : ∀ m, isStandard m = true ↔ m ∈ standardModules := fun m => List.contains_iff_mem
  have hother : ∀ m, (!isStandard m) = true ↔ m ∉ standardModules := fun m => by
    rw [← hstandard, Bool.not_eq_true', Bool.not_eq_true]
  have hfuture : ∀ m ∈ standardModules, m ≠ "__future__" := by decide
  constructor
  · exact (lists_rows h.some_name (· == "__future__")).congr (fun _ => Iff.rfl) (by simp [Asks])
  · simp only [groups, List.filter_filter]
    refine (lists_arranged i.modules isStandard h.some_name
      fun m => isStandard m && m != "__future__").congr (by simp [Asks, hstandard]) fun m n => ?_
    rw [Bool.and_eq_true, hstandard, bne_iff_ne, and_iff_left_of_imp (hfuture m)]
    rfl
  · simp only [groups, List.filter_filter]
    refine (lists_arranged i.modules (fun m => !isStandard m) h.some_name
      fun m => !isStandard m && m != "__future__").congr (fun m => ?_) fun m n => ?_
    · rw [hother]
      rfl
    · rw [Bool.and_eq_true, hother, bne_iff_ne]
      rfl
  · have hall := lists_rows h.some_relative fun _ => true
    rw [List.filter_true] at hall
    exact hall.congr (fun _ => Iff.rfl) (by simp [Asks])

/-- The lines of imports depend on what is asked for, and not on the order of the steps, their
repetition or the way they put names together. They stand in four groups, of the future, the
standard library, third parties and siblings, those without lines left out, with a blank line
between them. In each group the lines are ordered by module, and each module asked for has one line
of a kind, with all names asked for from it, once each and in order. -/
theorem lines_of_requests {steps steps' : List Step} (h : ∀ s ∈ steps, s.IsProper)
    (h' : ∀ s ∈ steps', s.IsProper) (hsame : ∀ r, r ∈ requested steps ↔ r ∈ requested steps') :
    ∃ g : Groups, (ofSteps steps).lines = .ok g.texts ∧ (ofSteps steps').lines = .ok g.texts
      ∧ g.Hold (· ∈ requested steps) := by
  have hsound := isSound_ofSteps h
  have hsound' := isSound_ofSteps h'
  have hgroups : (ofSteps steps').groups = (ofSteps steps).groups :=
    groups_congr hsound' hsound fun r => by rw [asks_ofSteps, asks_ofSteps, hsame]
  have hasked : (ofSteps steps).Asks = (· ∈ requested steps) :=
    funext fun r => propext (asks_ofSteps steps r)
  refine ⟨(ofSteps steps).groups, hsound.lines_eq, ?_, hasked ▸ hsound.hold⟩
  rw [hsound'.lines_eq, hgroups]

/-- Steps of all kinds, and the same requests in another order, some of them made twice. -/
def someSteps : List Step :=
  [.absolute "typing" ["List", "Any"], .relative "post" ["Post"] 1, .absolute "fastapi" ["Request"],
   .absolute "typing" [], .absolute "__future__" ["annotations"]]

def otherSteps : List Step :=
  [.absolute "__future__" ["annotations"], .absolute "typing" ["Any"], .absolute "typing" [],
   .relative "post" ["Post", "Post"] 1, .absolute "typing" ["List"],
   .absolute "fastapi" ["Request"], .absolute "typing" ["Any"]]

theorem lines_of_requests_someSteps :
    (∀ s ∈ someSteps, s.IsProper) ∧ (∀ s ∈ otherSteps, s.IsProper)
      ∧ (∀ r, r ∈ requested someSteps ↔ r ∈ requested otherSteps)
      ∧ ∃ g : Groups, (ofSteps someSteps).lines = .ok g.texts
        ∧ (ofSteps otherSteps).lines = .ok g.texts ∧ g.Hold (· ∈ requested someSteps) := by
  have hsub : ∀ r ∈ requested someSteps, r ∈ requested otherSteps := by decide
  have hsup : ∀ r ∈ requested otherSteps, r ∈ requested someSteps := by decide
  have hsame : ∀ r, r ∈ requested someSteps ↔ r ∈ requested otherSteps := fun r => ⟨hsub r, hsup r⟩
  have hproper : ∀ s ∈ someSteps, s.IsProper := by decide
  have hproper' : ∀ s ∈ otherSteps, s.IsProper := by decide
  exact ⟨hproper, hproper', hsame, lines_of_requests hproper hproper' hsame⟩

end SmithyGen.Imports
