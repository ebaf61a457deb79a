import SmithyGen.Proofs.CodeNames
import SmithyGen.Proofs.Validation

namespace SmithyGen

open Code

/-- A bound that is a text has no quote and no parenthesis in it. -/
def Bounds.HasPlainTexts (b : Bounds) : Prop :=
  ∀ t, b.min = .str t ∨ b.max = .str t → ∀ c ∈ t.toList, isQuote c = false ∧ c ≠ '('

namespace Rule

section Calls

variable {r : Rule} {f : RuleField} {b : Bounds}

theorem plain_of_isSound (h : (Symbol.word f.attributeName).isSound = true) :
    ∀ c ∈ f.attributeName.toList, isQuote c = false ∧ c ≠ '(' := by
  simp only [Symbol.isSound, Bool.and_eq_true] at h
  intro c hc
  have hword := List.all_eq_true.mp h.2 c hc
  refine ⟨(Symbol.isQuote_of_isWordChar hword).1, ?_⟩
  rintro rfl
  exact absurd hword (by decide)

theorem quiet_refusal (message : String) : Quiet (spell (refusal message)) := by
  have hspell : spell (refusal message)
      = "    raise ValueError(".toList ++ ((Text.quoted message).toList ++ ")".toList) := by
    simp [refusal, spell, Symbol.chars, Text.quoted]
  have hstart : Quiet "    raise ValueError(".toList := .of_plain (by rfl)
  have hstop : Quiet ")".toList := .of_plain (by rfl)
  rw [hspell]
  exact hstart.append ((Lacks.quoted (by rfl) message).append hstop)

theorem quiet_collection (fields : List (String × String)) : Quiet (spell (collection fields)) := by
  have hstart : Quiet (spell collectionStart) := .of_plain (by rfl)
  have hstop : Quiet (spell collectionEnd) := .of_plain (by rfl)
  rw [collection, spell_append, spell_append, ← toList_literal_pairs]
  exact (hstart.append (Quiet.literal _ _)).append hstop

theorem calm_opening (hname : (Symbol.word f.attributeName).isSound = true) {cs : List Char}
    (h : Calm cs) : Calm (spell (opening f) ++ cs) := by
  have hplain := plain_of_isSound hname
  have hif : Quiet "if ".toList := .of_plain (by rfl)
  have hself : Quiet "if self.".toList := .of_plain (by rfl)
  have hpresence : Quiet (spell presence) := .of_plain (by rfl)
  unfold opening guardOf
  split_ifs
  · exact .quiet_append hif h
  · have hspell : spell (.word "if" :: .blank :: (attributeOf f.attributeName ++ presence)) ++ cs
        = "if self.".toList ++ (f.attributeName.toList ++ (spell presence ++ cs)) := by
      simp [spell, attributeOf, Symbol.chars]
    have hhead : (spell presence ++ cs).head? ≠ some '(' := by
      simp [spell, presence, Symbol.chars]
    rw [hspell]
    exact .quiet_append hself (.word_append hplain (.quiet_append hpresence h) hhead)

/-- A condition on a quantity calls at most the function of the quantity. -/
theorem calm_condition (hname : (Symbol.word f.attributeName).isSound = true)
    (h : b.HasPlainTexts) {start stop : String} (hstart : Quiet start.toList)
    (hstop : Quiet stop.toList) (hhead : stop.toList.head? ≠ some '(') :
    Calm (((b.frame start stop).1 ++ (f.attributeName.toList ++ (b.frame start stop).2))
      ++ ":".toList) := by
  have hlower : ∀ t, b.min = .str t → ∀ c ∈ t.toList, isQuote c = false ∧ c ≠ '(' :=
    fun t ht => h t (Or.inl ht)
  have hupper : ∀ t, b.max = .str t → ∀ c ∈ t.toList, isQuote c = false ∧ c ≠ '(' :=
    fun t ht => h t (Or.inr ht)
  have hcolon : Calm ":".toList := .of_quiet (.of_plain (by rfl))
  -- After the attribute comes the end of the quantity, or the blank before the sign.
  have hback {sign : String} (hsign : Quiet sign.toList) (hblank : sign.toList.head? = some ' ')
      {v : Value} (hv : ∀ t, v = .str t → ∀ c ∈ t.toList, isQuote c = false ∧ c ≠ '(') :
      Calm (f.attributeName.toList ++ (stop.toList ++ (sign.toList
        ++ ((v.display .sealed).toList ++ ":".toList)))) := by
    refine .word_append (plain_of_isSound hname) (.quiet_append hstop (.quiet_append hsign
      (hcolon.display_append hv (by decide)))) ?_
    cases hs : stop.toList with
    | nil => simp [hblank]
    | cons c cs => simpa [hs] using hhead
  unfold Bounds.frame
  dsimp only
  split <;> simp only [String.toList_append, List.append_assoc]
  · have hnot : Quiet "not ".toList := .of_plain (by rfl)
    have hsign : Quiet " <= ".toList := .of_plain (by rfl)
    refine .quiet_append hnot (Calm.display_append hlower (.quiet_append hsign
      (.quiet_append hstart (hback hsign (by rfl) hupper))) ?_)
    simp
  · exact .quiet_append hstart (hback (.of_plain (by rfl)) (by rfl) hlower)
  · exact .quiet_append hstart (hback (.of_plain (by rfl)) (by rfl) hupper)

theorem not_calls_search {lines : List String} (hlines : r.lines = .ok lines)
    (hname : ∀ f ∈ r.field?, (Symbol.word f.attributeName).isSound = true)
    (hpattern : Emit.Types.isPattern r = false)
    (htext : ∀ f b, r = .length f b ∨ r = .range f b → b.HasPlainTexts) :
    ∀ line ∈ lines, ¬Calls "re.search" line := by
  have hend : "re.search".toList.getLast? = some 'h' := by decide
  have hbounded {f : RuleField} (hf : r.field? = some f) {condition : List Char}
      (hc : r.text .sealed templates ("condition" ++ r.ending)
        = .ok (.str (String.ofList condition))) (hcalm : Calm (condition ++ ":".toList)) :
      ∀ line ∈ lines, ¬Calls "re.search" line := by
    obtain ⟨message, hcode⟩ := lines_of_condition hf hc
    obtain rfl := Except.ok.inj (hlines.symm.trans hcode)
    simp only [List.forall_mem_cons]
    exact ⟨not_calls_of_isChain (calm_opening (hname f hf) hcalm).isChain hend,
      not_calls_of_isChain (Calm.of_quiet (quiet_refusal message)).isChain hend, by simp⟩
  cases r with
  | required fields =>
    obtain rfl := Except.ok.inj (hlines.symm.trans (lines_of_required fields))
    have hh : 'h' ∈ "re.search".toList := by decide
    simp only [missingLines, List.forall_mem_cons]
    exact ⟨not_calls_of_isChain (Calm.of_quiet (quiet_collection fields)).isChain hend,
      not_calls_of_not_mem hh (by decide), not_calls_of_not_mem hh (by decide), by simp⟩
  | length f b =>
    refine hbounded rfl (text_length f b) ?_
    exact calm_condition (hname f rfl) (htext f b (Or.inl rfl)) (.of_plain (by rfl))
      (.of_plain (by rfl)) (by decide)
  | range f b =>
    refine hbounded rfl (text_range f b) ?_
    exact calm_condition (hname f rfl) (htext f b (Or.inr rfl)) (.of_plain (by rfl))
      (.of_plain (by rfl)) (by decide)
  | pattern f p => cases hpattern

theorem calls_search {pattern : String} {lines : List String}
    (hlines : (Rule.pattern f pattern).lines = .ok lines)
    (hname : (Symbol.word f.attributeName).isSound = true) :
    ∃ line ∈ lines, Calls "re.search" line := by
  obtain ⟨message, hcode⟩ := lines_of_plain (.pattern f pattern) rfl
  obtain rfl := Except.ok.inj (hlines.symm.trans hcode)
  have hspell : spell (branch f (.pattern f pattern))
      = (spell (opening f) ++ "not ".toList) ++ ("re.search".toList ++ '(' :: ((Text.quoted
          pattern).toList ++ (", self.".toList ++ (f.attributeName.toList ++ "):".toList)))) := by
    simp [branch, failure, spell, attributeOf, Symbol.chars, Text.quoted]
  have hopening : Complete (spell (opening f)) := by
    simpa using (calm_opening hname (.of_quiet .nil)).complete
  have hopens : Opens (spell (opening f) ++ "not ".toList) :=
    .append hopening (by rfl) rfl (by decide)
  refine ⟨_, List.mem_cons_self, ?_⟩
  exact hopens.calls (by rfl) (by rw [String.toList_ofList, hspell])

end Calls

end Rule

namespace Member

variable {shapes : List Shape} {m : Member} {r : Rule}

/-- A bound that is given as a text becomes part of the code of a check as it is; it has no quote
and no parenthesis in it. -/
def HasPlainBounds (shapes : List Shape) (m : Member) : Prop :=
  ∀ id ∈ [Prelude.lengthTrait, Prelude.rangeTrait], ∀ es, m.Merged shapes id (.map es) →
    (Bounds.ofEntries es).HasPlainTexts

theorem isSound_of_mem_rules (hr : r ∈ m.rules shapes) :
    ∀ f ∈ r.field?, (Symbol.word f.attributeName).isSound = true := by
  rw [field?_of_mem_rules hr]
  intro f hf
  obtain rfl := Option.some.inj hf
  rw [ruleField_attributeName]
  exact Naming.isSound_fieldAttribute m.name

theorem hasPlainTexts_of_mem_rules (h : m.HasPlainBounds shapes) (hr : r ∈ m.rules shapes) :
    ∀ f b, r = .length f b ∨ r = .range f b → b.HasPlainTexts := by
  intro f b hb
  rcases mem_rules_iff.mp hr with ⟨_, ⟨es, hm, rfl, -⟩, rfl⟩ | ⟨_, ⟨es, hm, rfl, -⟩, rfl⟩
    | ⟨p, -, rfl⟩
  · obtain ⟨-, rfl⟩ : m.ruleField = f ∧ Bounds.ofEntries es = b := by simpa using hb
    exact h _ (by simp) es hm
  · obtain ⟨-, rfl⟩ : m.ruleField = f ∧ Bounds.ofEntries es = b := by simpa using hb
    exact h _ (by simp) es hm
  · simp at hb

end Member

namespace Shape

variable {shapes : List Shape} {s : Shape} {checks : List (List String)}

theorem mem_rules {r : Rule} (hr : r ∈ s.rules shapes) :
    r = .required s.requiredFields ∨ ∃ m ∈ s.members, r ∈ m.rules shapes := by
  rw [rules_eq] at hr
  rcases List.mem_append.mp hr with hr | hr
  · unfold requiredRules at hr
    split_ifs at hr
    · cases hr
    · exact Or.inl (List.mem_singleton.mp hr)
  · exact Or.inr (List.mem_flatMap.mp hr)

theorem calls_search_of_isPattern
    (hchecks : Emit.Types.validations (s.rules shapes) = .ok checks)
    (h : (s.rules shapes).any Emit.Types.isPattern = true) :
    ∃ line ∈ checks.flatten, Calls "re.search" line := by
  obtain ⟨r, hr, hpattern⟩ := List.any_eq_true.mp h
  obtain ⟨lines, hlines, hcode⟩ := Outcome.exists_image_of_mapM_eq_ok hchecks hr
  cases r with
  | pattern f pattern =>
    rcases mem_rules hr with hr | ⟨m, -, hr⟩
    · cases hr
    · have hname := Member.isSound_of_mem_rules hr f rfl
      obtain ⟨line, hline, hcalls⟩ := Rule.calls_search hcode hname
      exact ⟨line, List.mem_flatten_of_mem hlines hline, hcalls⟩
  | _ => cases hpattern

/-- No line of the other rules calls it, unless some bound does. -/
theorem isPattern_of_calls_search
    (hchecks : Emit.Types.validations (s.rules shapes) = .ok checks)
    (hbounds : ∀ m ∈ s.members, m.HasPlainBounds shapes) {line : String}
    (hline : line ∈ checks.flatten) (h : Calls "re.search" line) :
    (s.rules shapes).any Emit.Types.isPattern = true := by
  obtain ⟨lines, hlines, hline⟩ := List.mem_flatten.mp hline
  obtain ⟨r, hr, hcode⟩ := Outcome.exists_mem_of_mapM_eq_ok hchecks hlines
  refine List.any_eq_true.mpr ⟨r, hr, ?_⟩
  by_contra hpattern
  simp only [Bool.not_eq_true] at hpattern
  rcases mem_rules hr with rfl | ⟨m, hm, hr⟩
  · exact Rule.not_calls_search hcode (by simp [Rule.field?]) hpattern (by simp) line hline h
  · exact Rule.not_calls_search hcode (Member.isSound_of_mem_rules hr) hpattern
      (Member.hasPlainTexts_of_mem_rules (hbounds m hm) hr) line hline h

end Shape

end SmithyGen
