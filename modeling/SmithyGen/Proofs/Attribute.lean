import SmithyGen.Emit.Types
import SmithyGen.Model.Build
import SmithyGen.Proofs.Naming
import SmithyGen.Proofs.Outcome
import SmithyGen.Proofs.TypeModule

namespace SmithyGen

namespace Naming

/-- Two names with one attribute: their words are the same but for case, and if they have none,
their characters give the same identifier. -/
def SharesAttribute (a b : String) : Prop :=
  snake a = snake b ∧ (snake a = "" → identifier a = identifier b)

instance (a b : String) : Decidable (SharesAttribute a b) :=
  inferInstanceAs (Decidable (_ ∧ _))

theorem ne_nil_of_mem_words {cs w : List Char} (hw : w ∈ words cs) : w ≠ [] := by
  obtain ⟨_, _, _, -, h⟩ := Matcher.exists_match_of_mem_allFrom hw
  exact word?_ne_nil h

theorem not_isAlphanum_of_allFrom_eq_nil {before : Option Char} {cs : List Char}
    (h : Matcher.allFrom (fun _ => word?) 0 before cs = []) {c : Char} (hc : c ∈ cs) :
    c.isAlphanum = false := by
  induction cs generalizing before with
  | nil => cases hc
  | cons d cs ih =>
    rw [Matcher.allFrom] at h
    split at h
    next => cases h
    next hnone =>
      rcases List.mem_cons.mp hc with rfl | hc
      · by_contra ha
        have hsome := isSome_word? (by simpa using ha) cs
        rw [hnone] at hsome
        cases hsome
      · exact ih h hc

theorem isAlphanum_toLower {c : Char} (h : c.isAlphanum = true) : c.toLower.isAlphanum = true := by
  cases hu : c.isUpper with
  | true => simp [isAlphanum_eq, isLower_toLower hu]
  | false => rwa [toLower_of_not_isUpper hu]

def smallWords (s : String) : List (List Char) := (words s.toList).map (·.map Char.toLower)

theorem toList_snake (s : String) : (snake s).toList = Text.joinWith ['_'] (smallWords s) :=
  String.toList_ofList

theorem ne_nil_of_mem_smallWords {s : String} {w : List Char} (hw : w ∈ smallWords s) : w ≠ [] := by
  obtain ⟨v, hv, rfl⟩ := List.mem_map.mp hw
  simpa using ne_nil_of_mem_words hv

theorem isAlphanum_of_mem_smallWords {s : String} {w : List Char} (hw : w ∈ smallWords s) {c : Char}
    (hc : c ∈ w) : c.isAlphanum = true := by
  obtain ⟨v, hv, rfl⟩ := List.mem_map.mp hw
  obtain ⟨d, hd, rfl⟩ := List.mem_map.mp hc
  exact isAlphanum_toLower (words_isAlphanum hv hd)

theorem isAlphanum_head_snake {s : String} {c : Char} (h : (snake s).toList.head? = some c) :
    c.isAlphanum = true := by
  rw [toList_snake] at h
  obtain ⟨w, hw, hc⟩ := Text.exists_head?_of_joinWith (fun _ => ne_nil_of_mem_smallWords) h
  exact isAlphanum_of_mem_smallWords hw (List.mem_of_head? hc)

theorem isAlphanum_last_snake {s : String} {c : Char} (h : (snake s).toList.getLast? = some c) :
    c.isAlphanum = true := by
  rw [toList_snake] at h
  obtain ⟨w, hw, hc⟩ := Text.exists_getLast?_of_joinWith (fun _ => ne_nil_of_mem_smallWords) h
  exact isAlphanum_of_mem_smallWords hw (List.mem_of_getLast? hc)

theorem exists_isAlphanum_of_snake_ne_empty {s : String} (h : snake s ≠ "") :
    ∃ c ∈ (snake s).toList, c.isAlphanum = true := by
  cases hs : (snake s).toList with
  | nil => exact absurd (String.toList_inj.mp hs) h
  | cons c cs => exact ⟨c, by simp, isAlphanum_head_snake (by rw [hs]; rfl)⟩

theorem not_isAlphanum_of_snake_eq_empty {s : String} (h : snake s = "") {c : Char}
    (hc : c ∈ s.toList) : c.isAlphanum = false := by
  have hwords : words s.toList = [] := by
    by_contra hne
    have hjoin : Text.joinWith ['_'] (smallWords s) ≠ [] :=
      Text.joinWith_ne_nil (by simpa [smallWords] using hne) fun _ => ne_nil_of_mem_smallWords
    rw [← toList_snake, h] at hjoin
    exact hjoin rfl
  exact not_isAlphanum_of_allFrom_eq_nil hwords hc

/-- A text without the underscores at its ends. -/
def bare (cs : List Char) : List Char := Text.dropWhileEnd (· == '_') (cs.dropWhile (· == '_'))

theorem dropWhile_underscores {pre cs : List Char} (hpre : ∀ c ∈ pre, c = '_')
    (hhead : cs.head? ≠ some '_') : (pre ++ cs).dropWhile (· == '_') = cs := by
  refine (Text.takeWhile_dropWhile_append (by simpa using hpre) ?_).2
  intro c hc
  exact beq_eq_false_iff_ne.mpr fun he => hhead (he ▸ hc)

/-- A name with underscores before and after it. -/
def IsPadded (cs : List Char) (s : String) : Prop :=
  ∃ pre post, (∀ c ∈ pre, c = '_') ∧ (∀ c ∈ post, c = '_') ∧ s.toList = pre ++ cs ++ post

theorem IsPadded.append_underscore {cs : List Char} {s : String} (h : IsPadded cs s) :
    IsPadded cs (s ++ "_") := by
  obtain ⟨pre, post, hpre, hpost, hs⟩ := h
  refine ⟨pre, post ++ ['_'], hpre, ?_, ?_⟩
  · intro c hc
    rcases List.mem_append.mp hc with hc | hc
    · exact hpost c hc
    · exact List.mem_singleton.mp hc
  · rw [String.toList_append, hs]
    simp

theorem IsPadded.bare_eq {cs : List Char} {s : String} (h : IsPadded cs s) (hne : cs ≠ [])
    (hhead : cs.head? ≠ some '_') (hlast : cs.getLast? ≠ some '_') : bare s.toList = cs := by
  obtain ⟨pre, post, hpre, hpost, hs⟩ := h
  have hhead' : (cs ++ post).head? ≠ some '_' := by rwa [List.head?_append_of_ne_nil _ hne]
  have hreverse : (post.reverse ++ cs.reverse).dropWhile (· == '_') = cs.reverse :=
    dropWhile_underscores (by simpa using hpost) (by simpa using hlast)
  rw [hs, bare, List.append_assoc, dropWhile_underscores hpre hhead', Text.dropWhileEnd,
    List.reverse_append, hreverse, List.reverse_reverse]

theorem isPadded_identifier {s : String} (h : ∀ c ∈ s.toList, Text.isWord c = true) :
    IsPadded s.toList (identifier s) := by
  have hclean : s.toList.map (fun c => if Text.isWord c then c else '_') = s.toList :=
    List.map_congr_left (fun c hc => if_pos (h c hc)) |>.trans (List.map_id _)
  have hself : IsPadded s.toList s := ⟨[], [], by simp, by simp, by simp⟩
  have hfront : IsPadded s.toList (String.ofList ('_' :: s.toList)) :=
    ⟨['_'], [], by simp, by simp, by simp⟩
  have hreserved : ∀ {t : String}, IsPadded s.toList t →
      IsPadded s.toList (if keywords.contains t then t ++ "_" else t) := by
    intro t ht
    split_ifs
    · exact ht.append_underscore
    · exact ht
  unfold identifier
  rw [hclean]
  refine hreserved ?_
  split
  next hs => exact ⟨['_'], [], by simp, by simp, by simp [hs]⟩
  next =>
    split_ifs
    · exact hfront
    · simpa using hself

theorem toNat_lt_of_isSnakeChar {c : Char} (h : isSnakeChar c = true) : c.toNat < 128 := by
  simp only [isSnakeChar, Bool.or_eq_true, beq_iff_eq, isLower_iff, isDigit_iff] at h
  rcases h with (⟨-, h⟩ | ⟨-, h⟩) | rfl
  · exact Nat.lt_of_le_of_lt h (by decide)
  · exact Nat.lt_of_le_of_lt h (by decide)
  · decide

theorem isWord_of_isSnakeChar {c : Char} (h : isSnakeChar c = true) : Text.isWord c = true := by
  rw [Text.isWord, if_pos (toNat_lt_of_isSnakeChar h)]
  simp only [isSnakeChar, Bool.or_eq_true] at h
  rcases h with (h | h) | h
  · simp [isAlphanum_eq, h]
  · simp [Char.isAlphanum, h]
  · simp [h]

/-- The attribute of a name with words is its snake case with underscores around it. -/
theorem isPadded_fieldAttribute {name : String} (h : snake name ≠ "") :
    IsPadded (snake name).toList (fieldAttribute name) := by
  have hattribute : attributeName name = identifier (snake name) := by
    simp [attributeName, h]
  have hpadded : IsPadded (snake name).toList (identifier (snake name)) :=
    isPadded_identifier fun c hc => isWord_of_isSnakeChar (isSnakeChar_of_mem_snake hc)
  unfold fieldAttribute
  rw [hattribute]
  dsimp only
  split_ifs
  · exact hpadded.append_underscore
  · exact hpadded

theorem bare_fieldAttribute {name : String} (h : snake name ≠ "") :
    bare (fieldAttribute name).toList = (snake name).toList := by
  have hmark : '_'.isAlphanum = false := by decide
  refine (isPadded_fieldAttribute h).bare_eq ?_ ?_ ?_
  · exact fun hnil => h (String.toList_inj.mp hnil)
  · intro hhead
    rw [isAlphanum_head_snake hhead] at hmark
    cases hmark
  · intro hlast
    rw [isAlphanum_last_snake hlast] at hmark
    cases hmark

/-- Nothing put around a name is a letter or a digit. -/
theorem not_isAlphanum_identifier {s : String} (h : ∀ c ∈ s.toList, c.isAlphanum = false) :
    ∀ c ∈ (identifier s).toList, c.isAlphanum = false := by
  have hmark : '_'.isAlphanum = false := by decide
  have hclean : ∀ c ∈ s.toList.map (fun c => if Text.isWord c then c else '_'),
      c.isAlphanum = false := by
    intro c hc
    obtain ⟨d, hd, rfl⟩ := List.mem_map.mp hc
    split_ifs
    · exact h d hd
    · exact hmark
  unfold identifier
  generalize s.toList.map (fun c => if Text.isWord c then c else '_') = cleaned at hclean
  have hreserved : ∀ {t : String}, (∀ c ∈ t.toList, c.isAlphanum = false) →
      ∀ c ∈ (if keywords.contains t then t ++ "_" else t).toList, c.isAlphanum = false := by
    intro t ht c hc
    split_ifs at hc
    · rw [String.toList_append] at hc
      rcases List.mem_append.mp hc with hc | hc
      · exact ht c hc
      · rw [List.mem_singleton.mp hc]
        exact hmark
    · exact ht c hc
  refine hreserved ?_
  rw [String.toList_ofList]
  cases cleaned with
  | nil => simp
  | cons c cs =>
    dsimp only
    split_ifs
    · simpa [hmark] using hclean
    · exact hclean

theorem fieldAttribute_of_snake_eq_empty {name : String} (h : snake name = "") :
    fieldAttribute name = identifier name ∧ ∀ c ∈ (identifier name).toList, c.isAlphanum = false := by
  have hplain := not_isAlphanum_identifier fun c => not_isAlphanum_of_snake_eq_empty h
  refine ⟨?_, hplain⟩
  have hattribute : attributeName name = identifier name := by
    simp [attributeName, h]
  have hbound : ∀ n ∈ boundNames, n.toList.head?.any Char.isAlphanum = true := by decide
  unfold fieldAttribute
  rw [hattribute]
  dsimp only
  split_ifs with hmem
  -- What a class binds starts with a letter.
  · obtain ⟨c, hc, ha⟩ := (Option.any_eq_true _ _).mp (hbound _ (List.contains_iff_mem.mp hmem))
    rw [hplain c (List.mem_of_head? hc)] at ha
    cases ha
  · rfl

/-- Names with words share an attribute where these are the same, names without a word where they
give one identifier, and a name with words shares none with a name without. -/
theorem fieldAttribute_eq_iff (a b : String) :
    fieldAttribute a = fieldAttribute b ↔ SharesAttribute a b := by
  have hmixed : ∀ {a b : String}, snake a ≠ "" → snake b = "" →
      fieldAttribute a ≠ fieldAttribute b := by
    intro a b ha hb he
    obtain ⟨c, hc, halnum⟩ := exists_isAlphanum_of_snake_ne_empty ha
    obtain ⟨pre, post, -, -, hpadded⟩ := isPadded_fieldAttribute ha
    obtain ⟨hattribute, hplain⟩ := fieldAttribute_of_snake_eq_empty hb
    have hmem : c ∈ (identifier b).toList := by
      rw [← hattribute, ← he, hpadded]
      simp [hc]
    rw [hplain c hmem] at halnum
    cases halnum
  by_cases ha : snake a = ""
  · by_cases hb : snake b = ""
    · rw [(fieldAttribute_of_snake_eq_empty ha).1, (fieldAttribute_of_snake_eq_empty hb).1]
      simp [SharesAttribute, ha, hb]
    · have hne : snake a ≠ snake b := fun he => hb (he ▸ ha)
      simp [SharesAttribute, hne, (hmixed hb ha).symm]
  · by_cases hb : snake b = ""
    · have hne : snake a ≠ snake b := fun he => ha (he ▸ hb)
      simp [SharesAttribute, hne, hmixed ha hb]
    · constructor
      · intro he
        -- The snake case is what is left of an attribute without the underscores around it.
        refine ⟨String.toList_inj.mp ?_, fun hempty => absurd hempty ha⟩
        rw [← bare_fieldAttribute ha, ← bare_fieldAttribute hb, he]
      · rintro ⟨he, -⟩
        simp [fieldAttribute, attributeName, he, hb]

end Naming

namespace Emit.Types

open Naming

theorem exists_class (shapes : List Shape) (o : Options) (s : Shape) :
    ∃ d c, document shapes o s = .ok d ∧ d.declarations = [c]
      ∧ c.fields.map (·.name) = (fieldMembers s).map fun m => fieldAttribute m.name := by
  obtain ⟨d, hd⟩ := document_isOk shapes o s
  obtain ⟨checks, -, -, hclass, -⟩ := document_cases hd
  refine ⟨d, classOf shapes s checks, hd, hclass, ?_⟩
  simp only [classOf, List.map_map, Function.comp_def, name_decl, FieldPlan.ofMember]

/-- The class of a structure has a field for each member, and the fields have distinct names exactly
where no two members share an attribute. -/
theorem class_fields_nodup_iff (shapes : List Shape) (o : Options) (s : Shape) :
    ∃ d c, document shapes o s = .ok d ∧ d.declarations = [c]
      ∧ (c.fields.map (·.name)).Perm (s.members.map fun m => fieldAttribute m.name)
      ∧ ((c.fields.map (·.name)).Nodup
        ↔ s.members.Pairwise fun m m' => ¬ SharesAttribute m.name m'.name) := by
  obtain ⟨d, c, hd, hc, hfields⟩ := exists_class shapes o s
  have hperm : (c.fields.map (·.name)).Perm (s.members.map fun m => fieldAttribute m.name) := by
    rw [hfields]
    exact (fieldMembers_perm s).map _
  refine ⟨d, c, hd, hc, hperm, ?_⟩
  rw [hperm.nodup_iff, List.Nodup, List.pairwise_map]
  simp only [ne_eq, fieldAttribute_eq_iff]

def accountDocument : Value :=
  .map [("shapes", .map [
    ("blog#Account", .map [("type", .str "structure"), ("members", .map [
      ("userId", .str "smithy.api#String"), ("user_id", .str "smithy.api#String")])])])]

def accountShape : Shape :=
  { id := "blog#Account", name := "Account", type := .struct,
    members := [{ name := "userId", target := "smithy.api#String" },
      { name := "user_id", target := "smithy.api#String" }] }

/-- Two members of one structure share a field. -/
theorem class_fields_account :
    ∃ m s d c, (Model.build .strict accountDocument).result = .ok m ∧ m.structures = [s]
      ∧ s.members.map (·.name) = ["userId", "user_id"]
      ∧ document m.shapes ⟨"app", .str ".", .null, true⟩ s = .ok d ∧ d.declarations = [c]
      ∧ c.fields.map (·.name) = ["user_id", "user_id"] := by
  obtain ⟨d, c, hd, hc, hfields⟩ := exists_class [accountShape] ⟨"app", .str ".", .null, true⟩
    accountShape
  refine ⟨_, accountShape, d, c, rfl, rfl, rfl, hd, hc, ?_⟩
  rw [hfields]
  decide

end Emit.Types

end SmithyGen
