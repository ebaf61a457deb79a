import Mathlib.Data.List.Basic
import SmithyGen.Emit.TypeExpr

namespace SmithyGen

open Emit

namespace Resolved

/-- What a list or a map puts around the type of its elements. -/
def wrapper? (r : Resolved) : Option Wrapper :=
  match r.kind with
  | .list => some .list
  | .map => some .dict
  | _ => none

def base (r : Resolved) : Base :=
  match r.kind with
  | .reference => .reference r.shape.id r.shape.name
  | kind => .scalar kind

theorem text_base (r : Resolved) :
    r.base.text = if r.isDangling then "Any"
      else if r.shape.type = .struct then r.shape.name else scalarName r.shape.type.kind := by
  unfold base kind
  by_cases h : r.isDangling = true
  · simp only [h, if_true]
    rfl
  · simp only [h, Bool.false_eq_true, if_false]
    cases r.shape.type <;> rfl

end Resolved

namespace Emit

/-- The shapes on the chain of a target, from the one that it names itself. -/
def link (shapes : List Shape) : Option String → Nat → Resolved
  | target, 0 => resolve shapes target
  | target, i + 1 => link shapes (resolve shapes target).shape.target i

/-- A type has the wrappers of the first shapes of a chain, and the base of the one after them,
which has no wrapper. Where there is none among so many shapes, the base is left open. -/
def Mirrors (shapes : List Shape) (left : Nat) (target : Option String) (e : TypeExpr) : Prop :=
  ∃ k, e.wrappers.map some = (List.range k).map (fun i => (link shapes target i).wrapper?)
    ∧ (k < left ∧ (link shapes target k).wrapper? = none ∧ e.base = (link shapes target k).base
      ∨ k = left ∧ e.base = .scalar .unknown)

section Chain

variable {shapes : List Shape} {left : Nat} {target : Option String}

theorem Mirrors.cons {w : Wrapper} {e : TypeExpr} (hw : (resolve shapes target).wrapper? = some w)
    (h : Mirrors shapes left (resolve shapes target).shape.target e) :
    Mirrors shapes (left + 1) target { e with wrappers := w :: e.wrappers } := by
  obtain ⟨k, hk, hend⟩ := h
  -- The chain of the elements is that of the target without its first shape.
  refine ⟨k + 1, ?_, ?_⟩
  · rw [List.map_cons, hk, List.range_succ_eq_map, List.map_cons, List.map_map, ← hw]
    rfl
  · rcases hend with ⟨hlt, hnone, hbase⟩ | ⟨rfl, hopen⟩
    · exact Or.inl ⟨Nat.succ_lt_succ hlt, hnone, hbase⟩
    · exact Or.inr ⟨rfl, hopen⟩

theorem mirrors_base (h : (resolve shapes target).wrapper? = none) :
    Mirrors shapes (left + 1) target ⟨[], (resolve shapes target).base⟩ :=
  ⟨0, rfl, Or.inl ⟨Nat.succ_pos left, h, rfl⟩⟩

theorem typeFrom_mirrors (left : Nat) (target : Option String) :
    Mirrors shapes left target (typeFrom shapes left target) := by
  induction left generalizing target with
  | zero => exact ⟨0, rfl, Or.inr ⟨rfl, rfl⟩⟩
  | succ left ih =>
    cases hkind : (resolve shapes target).kind with
    | list =>
      have hw : (resolve shapes target).wrapper? = some .list := by
        simp only [Resolved.wrapper?, hkind]
      simpa only [typeFrom, hkind] using (ih _).cons hw
    | map =>
      have hw : (resolve shapes target).wrapper? = some .dict := by
        simp only [Resolved.wrapper?, hkind]
      simpa only [typeFrom, hkind] using (ih _).cons hw
    | _ =>
      have hnone : (resolve shapes target).wrapper? = none := by
        simp only [Resolved.wrapper?, hkind]
      have hmirrors : Mirrors shapes (left + 1) target _ := mirrors_base hnone
      simpa only [typeFrom, hkind, Resolved.base] using hmirrors

end Chain

def Wrapper.opening : Wrapper → String
  | .list => "list["
  | .dict => "dict[str, "

theorem Wrapper.wrap_eq (w : Wrapper) (inner : String) :
    w.wrap inner = w.opening ++ inner ++ "]" := by
  cases w <;> rfl

/-- Every bracket that a wrapper opens is closed after the base. -/
theorem TypeExpr.toList_text (e : TypeExpr) :
    e.text.toList = e.wrappers.flatMap (·.opening.toList)
      ++ (e.base.text.toList ++ List.replicate e.wrappers.length ']') := by
  obtain ⟨wrappers, base⟩ := e
  unfold TypeExpr.text
  induction wrappers with
  | nil => simp
  | cons w ws ih =>
    have hclose : "]".toList = [']'] := rfl
    simp only [List.foldr_cons, Wrapper.wrap_eq, String.toList_append, ih, List.flatMap_cons,
      List.length_cons, List.replicate_succ', List.append_assoc, hclose]

namespace Base

def names (b : Base) : List (String × List String) :=
  if b = .scalar .timestamp then [("datetime", ["datetime"])]
  else if b = .scalar .unknown then [("typing", ["Any"])]
  else []

def siblings (current : String) : Base → List (String × List String)
  | .reference id name => if id = current then [] else [("." ++ Naming.snake name, [name])]
  | .scalar _ => []

theorem addImports_eq (b : Base) (i : Imports) :
    b.addImports i = { i with names := i.names ++ b.names } := by
  cases b with
  | reference id name => simp [addImports, names]
  | scalar kind => cases kind <;> simp [addImports, names, Imports.add]

theorem addLateImports_eq (current : String) (b : Base) (i : Imports) :
    b.addLateImports current i = { i with relative := i.relative ++ b.siblings current } := by
  cases b with
  | reference id name =>
    by_cases h : id = current <;> simp [addLateImports, siblings, Imports.addRelative, h]
  | scalar kind => simp [addLateImports, siblings]

end Base

/-- The type of a target mirrors the chain of shapes from it, also where the chain comes back to a
shape that it has passed. It has a wrapper for each list and map on the chain and, in balanced
brackets, the base of the first other shape, or nothing known where there is none at the depth to
which the chain is followed. Only what the base needs is imported. -/
theorem typeExpr_chain (shapes : List Shape) (target current : String) (imports late : Imports) :
    let e := typeExpr shapes target
    let shapeAt := link shapes (some target)
    ∃ k, e.wrappers.map some = (List.range k).map (fun i => (shapeAt i).wrapper?)
      ∧ (k ≤ 8 ∧ (shapeAt k).wrapper? = none ∧ e.base = (shapeAt k).base
            ∧ e.base.text = (if (shapeAt k).isDangling then "Any"
                else if (shapeAt k).shape.type = .struct then (shapeAt k).shape.name
                else scalarName (shapeAt k).shape.type.kind)
          ∨ k = 9 ∧ e.base = .scalar .unknown ∧ e.base.text = "Any")
      ∧ e.text.toList = e.wrappers.flatMap (·.opening.toList)
          ++ (e.base.text.toList ++ List.replicate k ']')
      ∧ e.base.addImports imports = { imports with names := imports.names ++ e.base.names }
      ∧ e.base.addLateImports current late
          = { late with relative := late.relative ++ e.base.siblings current } := by
  intro e shapeAt
  obtain ⟨k, hk, hend⟩ : Mirrors shapes (typeDepth + 1) (some target) e := typeFrom_mirrors _ _
  have hlength : e.wrappers.length = k := by simpa using congrArg List.length hk
  refine ⟨k, hk, ?_, ?_, e.base.addImports_eq imports, e.base.addLateImports_eq current late⟩
  · rcases hend with ⟨hlt, hnone, hbase⟩ | ⟨hdeep, hbase⟩
    · refine Or.inl ⟨Nat.le_of_lt_succ hlt, hnone, hbase, ?_⟩
      rw [← Resolved.text_base, hbase]
    · exact Or.inr ⟨hdeep, hbase, congrArg Base.text hbase⟩
  · rw [e.toList_text, hlength]

example :
    let thread : Shape :=
      { id := "blog#Thread", name := "Thread", type := .list, target := some "blog#Replies" }
    let replies : Shape :=
      { id := "blog#Replies", name := "Replies", type := .map, target := some "blog#Thread" }
    (typeExpr [thread, replies] "blog#Replies").text
      = "dict[str, list[dict[str, list[dict[str, list[dict[str, list[dict[str, Any]]]]]]]]]" := by
  decide

end Emit

end SmithyGen
