import SmithyGen.Document.Render
import SmithyGen.Proofs.Outcome
import SmithyGen.Proofs.Text

namespace SmithyGen

namespace Imports

structure IsWord (s : String) : Prop where
  ne_empty : s ≠ ""
  no_blank : s.toList.all (fun c => !Text.isBlank c) = true

instance (s : String) : Decidable (IsWord s) :=
  decidable_of_iff (s ≠ "" ∧ s.toList.all (fun c => !Text.isBlank c) = true)
    ⟨fun h => ⟨h.1, h.2⟩, fun h => ⟨h.1, h.2⟩⟩

theorem IsWord.splitWhere_eq {s : String} (h : IsWord s) :
    Text.splitWhere Text.isBlank s.toList = [s.toList] :=
  Text.splitWhere_of_none fun c hc => by simpa using List.all_eq_true.mp h.no_blank c hc

theorem IsWord.toList_ne_nil {s : String} (h : IsWord s) : s.toList ≠ [] :=
  fun he => h.ne_empty (String.toList_inj.mp he)

/-- The key of a line is its second word. -/
theorem lineKey?_append {first second rest : String} (h : IsWord first) (h' : IsWord second) :
    lineKey? (first ++ " " ++ second ++ " " ++ rest) = some second := by
  have hl : (first ++ " " ++ second ++ " " ++ rest).toList
      = first.toList ++ ' ' :: (second.toList ++ ' ' :: rest.toList) := by
    simp [String.toList_append]
  rw [lineKey?, hl, Text.splitWhere_append_cons (by rfl), Text.splitWhere_append_cons (by rfl),
    h.splitWhere_eq, h'.splitWhere_eq]
  simp [h.toList_ne_nil, h'.toList_ne_nil]

theorem lineKey?_moduleLine {module : String} (h : IsWord module) :
    lineKey? (moduleLine module) = some module := by
  have hf : IsWord "import" := by decide
  have hl : (moduleLine module).toList = "import".toList ++ ' ' :: module.toList := by
    simp [moduleLine, String.toList_append]
  rw [lineKey?, hl, Text.splitWhere_append_cons (by rfl), hf.splitWhere_eq, h.splitWhere_eq]
  simp [h.toList_ne_nil]

theorem lineKey?_nameLine {request : String × List String} (h : IsWord request.1) :
    lineKey? (nameLine request) = some request.1 := by
  have hf : IsWord "from" := by decide
  have hl : nameLine request
      = "from" ++ " " ++ request.1 ++ " " ++ ("import " ++ ", ".intercalate request.2) := by
    rw [← String.toList_inj]
    simp [nameLine, String.toList_append]
  rw [hl, lineKey?_append hf h]

@[simp] theorem mem_sorted {x : String} {xs : List String} : x ∈ sorted xs ↔ x ∈ xs := by
  rw [sorted, List.mem_eraseDups, List.mem_mergeSort]

theorem fst_mem_of_mem_gathered {r : String × List String} {requests : List (String × List String)}
    (h : r ∈ gathered requests) : r.1 ∈ requests.map (·.1) := by
  obtain ⟨m, hm, rfl⟩ := List.mem_map.mp h
  exact mem_sorted.mp hm

/-- The modules asked for, as they are or for their names, are words. Relative modules are in no
order by their lines. -/
structure AsksForWords (i : Imports) : Prop where
  modules : ∀ m ∈ i.modules, IsWord m
  names : ∀ r ∈ i.names, IsWord r.1

theorem asksForWords_empty : AsksForWords {} where
  modules := by simp
  names := by simp

theorem AsksForWords.add {i : Imports} (h : AsksForWords i) {module : String} (hw : IsWord module)
    (names : List String) : AsksForWords (i.add module names) := by
  unfold Imports.add
  split_ifs
  · refine ⟨?_, h.names⟩
    simpa [or_imp, forall_and] using ⟨h.modules, hw⟩
  · refine ⟨h.modules, ?_⟩
    intro r hr
    rcases List.mem_append.mp hr with hr | hr
    · exact h.names r hr
    · rw [List.mem_singleton.mp hr]
      exact hw

theorem AsksForWords.addRelative {i : Imports} (h : AsksForWords i) (module : String)
    (names : List String) (level : Nat) : AsksForWords (i.addRelative module names level) :=
  ⟨h.modules, h.names⟩

/-- A line of imports: a module as it is, or names from a module. -/
inductive Line where
  | whole (module : String)
  | named (module : String) (names : List String)
deriving DecidableEq

namespace Line

def text : Line → String
  | whole module => moduleLine module
  | named module names => nameLine (module, names)

def module : Line → String
  | whole module => module
  | named module _ => module

def ofRow (row : String × List String) : Line := named row.1 row.2

theorem lineKey?_text {l : Line} (h : IsWord l.module) : lineKey? l.text = some l.module := by
  cases l with
  | whole module => exact lineKey?_moduleLine h
  | named module names => exact @lineKey?_nameLine (module, names) h

end Line

/-- Lines by module, those of one module in the order given. -/
def arranged (ls : List Line) : List Line := ls.mergeSort fun a b => a.module ≤ b.module

theorem byModule_text {ls : List Line} (h : ∀ l ∈ ls, IsWord l.module) :
    byModule (ls.map Line.text) = .ok ((arranged ls).map Line.text) := by
  have hkeys : (ls.map Line.text).all (fun l => (lineKey? l).isSome) = true := by
    refine List.all_eq_true.mpr fun l hl => ?_
    obtain ⟨line, hline, rfl⟩ := List.mem_map.mp hl
    rw [Line.lineKey?_text (h line hline)]
    rfl
  rw [byModule, if_pos hkeys, arranged, List.map_mergeSort]
  intro a ha b hb
  rw [Line.lineKey?_text (h a ha), Line.lineKey?_text (h b hb)]
  rfl

/-- The lines of a module in their groups. -/
structure Groups where
  future : List Line
  standard : List Line
  thirdParty : List Line
  siblings : List Line

namespace Groups

def all (g : Groups) : List (List Line) := [g.future, g.standard, g.thirdParty, g.siblings]

def texts (g : Groups) : List String :=
  [""].intercalate ((g.all.filter (· ≠ [])).map (·.map Line.text))

end Groups

theorem joinGroups_eq (groups : List (List Line)) :
    joinGroups (groups.map (·.map Line.text))
      = [""].intercalate ((groups.filter (· ≠ [])).map (·.map Line.text)) := by
  induction groups with
  | nil => rfl
  | cons group groups ih =>
    cases group with
    | nil => exact ih
    | cons l ls =>
      rw [List.filter_cons_of_pos (by simp)]
      simp only [List.map_cons, joinGroups, ih]
      cases hrest : groups.filter (· ≠ []) with
      | nil => simp
      | cons next others =>
        have hnext : next ∈ groups.filter (· ≠ []) := hrest ▸ List.mem_cons_self
        obtain ⟨first, more, rfl⟩ : ∃ first more, next = first :: more :=
          List.exists_cons_of_ne_nil (by simpa using (List.mem_filter.mp hnext).2)
        cases others <;> simp [List.intercalate_cons_cons]

def groups (i : Imports) : Groups :=
  let modules := sorted i.modules
  let rows := (gathered i.names).filter (·.1 != "__future__")
  { future := ((gathered i.names).filter (·.1 == "__future__")).map Line.ofRow
    standard := arranged ((modules.filter isStandard).map Line.whole
      ++ (rows.filter fun (m, _) => isStandard m).map Line.ofRow)
    thirdParty := arranged ((modules.filter fun m => !isStandard m).map Line.whole
      ++ (rows.filter fun (m, _) => !isStandard m).map Line.ofRow)
    siblings := (gathered i.relative).map Line.ofRow }

/-- Imports of words have lines. -/
theorem AsksForWords.lines_eq {i : Imports} (h : AsksForWords i) :
    i.lines = .ok i.groups.texts := by
  have hwhole : ∀ (p : String → Bool), ∀ l ∈ ((sorted i.modules).filter p).map Line.whole,
      IsWord l.module := by
    intro p l hl
    obtain ⟨m, hmem, rfl⟩ := List.mem_map.mp hl
    exact h.modules m (mem_sorted.mp (List.mem_filter.mp hmem).1)
  have hnames : ∀ (p : String × List String → Bool), ∀ l ∈
      (((gathered i.names).filter (·.1 != "__future__")).filter p).map Line.ofRow,
      IsWord l.module := by
    intro p l hl
    obtain ⟨row, hmem, rfl⟩ := List.mem_map.mp hl
    have hrow := fst_mem_of_mem_gathered (List.mem_filter.mp (List.mem_filter.mp hmem).1).1
    obtain ⟨row', hrow', he⟩ := List.mem_map.mp hrow
    exact (congrArg IsWord he).mp (h.names row' hrow')
  have hgroup : ∀ (p : String → Bool) (q : String × List String → Bool),
      byModule (((sorted i.modules).filter p).map moduleLine
        ++ (((gathered i.names).filter (·.1 != "__future__")).filter q).map nameLine)
      = .ok ((arranged (((sorted i.modules).filter p).map Line.whole
        ++ (((gathered i.names).filter (·.1 != "__future__")).filter q).map Line.ofRow)).map
          Line.text) := by
    intro p q
    rw [← byModule_text fun l hl => (List.mem_append.mp hl).elim (hwhole p l) (hnames q l),
      List.map_append, List.map_map, List.map_map]
    rfl
  rw [lines, hgroup, hgroup, Groups.texts, ← joinGroups_eq]
  simp only [groups, Groups.all, List.map_cons, List.map_map]
  rfl

theorem AsksForWords.lines_isOk {i : Imports} (h : AsksForWords i) : ∃ ls, i.lines = .ok ls :=
  ⟨_, h.lines_eq⟩

end Imports

theorem Document.render_isOk {d : Document} {ls late : List String} (h : d.imports.lines = .ok ls)
    (hl : d.lateImports.lines = .ok late) : ∃ text, d.render = .ok text := by
  have hlines : ∃ lines, d.lines = .ok lines := by
    unfold Document.lines
    rw [h, hl]
    cases d.layout <;> exact ⟨_, rfl⟩
  obtain ⟨lines, hlines⟩ := hlines
  exact ⟨_, by rw [Document.render, hlines]; rfl⟩

end SmithyGen
