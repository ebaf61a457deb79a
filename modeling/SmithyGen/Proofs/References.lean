import Mathlib.Tactic.SplitIfs
import SmithyGen.Model.Build

namespace SmithyGen

def Notice.dangling? : Notice → Option Dangling
  | .dangling d => some d
  | _ => none

namespace Logged

variable {α β : Type}

/-- The dangling references told on the way, in order. -/
def danglings (x : Logged α) : List Dangling := x.notices.filterMap Notice.dangling?

/-- The computation ended at the first dangling reference that it tells of: the notices before it
stay, and it becomes the fault. -/
def halt (x : Logged α) : Logged α :=
  match x.danglings with
  | [] => x
  | d :: _ =>
    ⟨x.notices.takeWhile (·.dangling?.isNone), .error (.dangling d.reference d.referencedBy)⟩

theorem halt_of_nil {x : Logged α} (h : x.danglings = []) : x.halt = x := by
  rw [halt, h]

theorem halt_of_cons {x : Logged α} {d : Dangling} {ds : List Dangling}
    (h : x.danglings = d :: ds) :
    x.halt = ⟨x.notices.takeWhile (·.dangling?.isNone),
      .error (.dangling d.reference d.referencedBy)⟩ := by
  rw [halt, h]

/-- A notice of a dangling reference stays the first one, whatever is told after it. -/
theorem takeWhile_append_of_dangling {ns ms : List Notice} {d : Dangling} {ds : List Dangling}
    (h : ns.filterMap Notice.dangling? = d :: ds) :
    (ns ++ ms).takeWhile (·.dangling?.isNone) = ns.takeWhile (·.dangling?.isNone) := by
  induction ns with
  | nil => simp at h
  | cons n ns ih =>
    cases hn : n.dangling? with
    | none =>
      rw [List.filterMap_cons_none hn] at h
      simp [hn, ih h]
    | some e => simp [hn]

theorem takeWhile_append_of_nil {ns ms : List Notice}
    (h : ns.filterMap Notice.dangling? = []) :
    (ns ++ ms).takeWhile (·.dangling?.isNone) = ns ++ ms.takeWhile (·.dangling?.isNone) := by
  have hall : ∀ n ∈ ns, n.dangling?.isNone = true := by
    intro n hn
    simpa using List.filterMap_eq_nil_iff.mp h n hn
  exact List.takeWhile_append_of_pos hall

theorem halt_bind (x : Logged α) (f : α → Logged β) :
    (x >>= f).halt = x.halt >>= fun a => (f a).halt := by
  obtain ⟨ns, r⟩ := x
  cases r with
  | error e =>
    cases h : ns.filterMap Notice.dangling? with
    | nil => simp [halt, danglings, h]
    | cons d ds => simp [halt, danglings, h]
  | ok a =>
    cases h : ns.filterMap Notice.dangling? with
    | cons d ds =>
      simp [halt, danglings, h, takeWhile_append_of_dangling h]
    | nil =>
      cases hf : (f a).notices.filterMap Notice.dangling? with
      | nil => simp [halt, danglings, h, hf]
      | cons d ds => simp [halt, danglings, h, hf, takeWhile_append_of_nil h]

@[simp] theorem halt_pure (a : α) : (pure a : Logged α).halt = pure a := rfl

@[simp] theorem halt_lift (x : Except Fault α) :
    (liftM x : Logged α).halt = liftM x := rfl

theorem halt_note {n : Notice} (h : n.dangling? = none) : (note n).halt = note n :=
  halt_of_nil (by simp [danglings, note, h])

end Logged

namespace Build

open Logged

/-- What a strict policy does with a reference is to end the lenient one. -/
theorem meet_strict (d : Dangling) :
    ReferencePolicy.strict.meet d = (ReferencePolicy.lenient.meet d).halt := rfl

theorem shapeType_halt (id : String) (type : Value) :
    (shapeType id type).halt = shapeType id type := by
  unfold shapeType
  split_ifs with h
  · rfl
  · split
    · rfl
    · rfl
    · rfl
    · split
      · rfl
      · rw [halt_bind, halt_note rfl, halt_pure]

theorem shape_halt (id : String) (raw : Value) : (shape id raw).halt = shape id raw := by
  unfold shape
  split
  · simp only [halt_bind, shapeType_halt, halt_lift, halt_pure]
  · rfl

theorem shapes_halt (raw : Entries Value) : (shapes raw).halt = shapes raw := by
  induction raw with
  | nil => rfl
  | cons entry rest ih => simp only [shapes, halt_bind, shape_halt, ih, halt_pure]

theorem checkMembers_strict (all : List Shape) (s : Shape) (ms : List Member) :
    checkMembers .strict all s ms = (checkMembers .lenient all s ms).halt := by
  induction ms with
  | nil => rfl
  | cons m ms ih =>
    simp only [checkMembers]
    split_ifs with h
    · exact ih
    · rw [halt_bind, ← meet_strict, ih]

theorem checkTargets_strict (all ss : List Shape) :
    checkTargets .strict all ss = (checkTargets .lenient all ss).halt := by
  induction ss with
  | nil => rfl
  | cons s ss ih => rw [checkTargets, checkTargets, halt_bind, ← checkMembers_strict, ih]

theorem operationShape_strict (all : List Shape) (operation : String) (ref : Value) :
    operationShape .strict all operation ref
      = (operationShape .lenient all operation ref).halt := by
  unfold operationShape
  split
  · rfl
  · split_ifs with h
    · rfl
    · split
      · rfl
      · rw [halt_bind, ← meet_strict, halt_pure]

theorem operationShapes_strict (all : List Shape) (operation : String) (refs : List Value) :
    operationShapes .strict all operation refs
      = (operationShapes .lenient all operation refs).halt := by
  induction refs with
  | nil => rfl
  | cons ref refs ih =>
    simp only [operationShapes, halt_bind, ← operationShape_strict, ← ih, halt_pure]

theorem operation_strict (all : List Shape) (id : String) (raw : Entries Value) :
    operation .strict all id raw = (operation .lenient all id raw).halt := by
  simp only [operation, halt_bind, halt_lift, ← operationShape_strict, ← operationShapes_strict,
    halt_pure]

theorem operations_strict (all : List Shape) (raw : Entries Value) (service : String)
    (refs : List Value) :
    operations .strict all raw service refs
      = (operations .lenient all raw service refs).halt := by
  induction refs with
  | nil => rfl
  | cons ref refs ih =>
    simp only [operations]
    split
    · simp only [halt_bind, ← operation_strict, ← ih, halt_pure]
    · rfl
    · rw [halt_bind, ← meet_strict, ih]

theorem service_strict (all : List Shape) (raw : Entries Value) (ns : String) :
    service .strict all raw ns = (service .lenient all raw ns).halt := by
  unfold service
  split
  · simp only [halt_bind, halt_lift, ← operations_strict, halt_pure]
  · rfl

/-- A strict build is the lenient one, ended at the first dangling reference. -/
theorem build_strict (doc : Value) : Model.build .strict doc = (Model.build .lenient doc).halt := by
  have hbuilt : ∀ ns n s, (note (.built ns n s)).halt = note (.built ns n s) :=
    fun _ _ _ => halt_note rfl
  simp only [Model.build, halt_bind, halt_lift, shapes_halt, ← checkTargets_strict,
    ← service_strict, hbuilt, halt_pure]

end Build

/-- Strict and lenient builds end the same way, unless the lenient one tells of a dangling
reference: then the strict one fails with the first of them. -/
theorem build_strict_result (doc : Value) :
    (Model.build .strict doc).result =
      match (Model.build .lenient doc).danglings with
      | [] => (Model.build .lenient doc).result
      | d :: _ => .error (.dangling d.reference d.referencedBy) := by
  rw [Build.build_strict]
  split
  next h => rw [Logged.halt_of_nil h]
  next d ds h => rw [Logged.halt_of_cons h]

end SmithyGen
