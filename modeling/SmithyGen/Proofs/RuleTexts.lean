import SmithyGen.Proofs.Outcome
import SmithyGen.Proofs.Template
import SmithyGen.Rule

namespace SmithyGen

namespace Rule

open Template

def ending (r : Rule) : String := r.variant?.elim "" ("_" ++ ·)

def ownText? (kind key : String) : Option String :=
  (Entries.get? kind (templates.entries?.getD [])).bind fun own =>
    (Entries.get? key (own.entries?.getD [])).bind Value.str?

theorem ownText?_eq_some {kind key s : String} (h : ownText? kind key = some s) :
    ∃ shared own, templates = .map shared ∧ Entries.get? kind shared = some (.map own)
      ∧ Entries.get? key own = some (.str s) := by
  obtain ⟨own, hown, h⟩ := Option.bind_eq_some_iff.mp h
  obtain ⟨v, hv, hs⟩ := Option.bind_eq_some_iff.mp h
  cases own with
  | map es =>
    cases v with
    | str s' =>
      obtain rfl := Option.some.inj hs
      exact ⟨_, es, rfl, hown, hv⟩
    | _ => cases hs
  | _ => cases hv

/-- A text is filled where its fields are among the parameters of the rule. -/
theorem text_isOk {form : Value.Form} {r : Rule} {key s : String} (h : ownText? r.kind key = some s)
    (hs : isFilledBy (r.params form).keys s = true) :
    ∃ text, r.text form templates key = .ok (.str text) := by
  obtain ⟨shared, own, htemplates, hown, hkey⟩ := ownText?_eq_some h
  obtain ⟨text, htext⟩ := fill_isOk hs
  refine ⟨text, Outcome.bind_eq_ok.mpr ⟨.map own, ?_, Outcome.bind_eq_ok.mpr ⟨.str s, ?_, ?_⟩⟩⟩
  · rw [htemplates, lookUp, hown]
    rfl
  · rw [lookUp, hkey]
    rfl
  · rw [fillValue, htext]
    rfl

theorem variant_mem (b : Bounds) : b.variant ∈ ["between", "min", "max"] := by
  unfold Bounds.variant
  split <;> simp

theorem bounded_texts : ∀ kind ∈ ["LengthRule", "RangeRule"],
    ∀ start ∈ ["condition", "error_message"], ∀ variant ∈ ["between", "min", "max"],
      (ownText? kind (start ++ ("_" ++ variant))).any
        (isFilledBy ["field_name", "member", "min", "max"]) = true := by
  decide +kernel

theorem pattern_texts : ∀ key ∈ ["condition", "error_message"],
    (ownText? "PatternRule" key).any (isFilledBy ["field_name", "member", "pattern"]) = true := by
  decide +kernel

/-- The two texts of a rule about one field can be written, whatever its bounds. -/
theorem texts_isOk {r : Rule} {f : RuleField} (hf : r.field? = some f) {start : String}
    (hstart : start ∈ ["condition", "error_message"]) :
    ∃ text, r.text .sealed templates (start ++ r.ending) = .ok (.str text) := by
  -- Which text is meant is known from the rule, but its fields only from the table of texts.
  have hany : ∀ {keys : List String}, (r.params .sealed).keys = keys →
      (ownText? r.kind (start ++ r.ending)).any (isFilledBy keys) = true →
      ∃ text, r.text .sealed templates (start ++ r.ending) = .ok (.str text) := by
    rintro keys rfl h
    cases hs : ownText? r.kind (start ++ r.ending) with
    | none =>
      rw [hs] at h
      cases h
    | some s =>
      rw [hs] at h
      exact text_isOk hs h
  cases r with
  | required fields => cases hf
  | length f b => exact hany rfl (bounded_texts "LengthRule" (by simp) _ hstart _ (variant_mem b))
  | range f b => exact hany rfl (bounded_texts "RangeRule" (by simp) _ hstart _ (variant_mem b))
  | pattern f p =>
    have hkey : start ++ ending (.pattern f p) = start := String.append_empty
    refine hany rfl ?_
    rw [hkey]
    exact pattern_texts _ hstart

end Rule

end SmithyGen
