import SmithyGen.Proofs.Attribute

namespace SmithyGen.Naming

/-- A word is all letters or all digits. -/
def IsRun (w : List Char) : Prop := (∀ c ∈ w, c.isAlpha = true) ∨ ∀ c ∈ w, c.isDigit = true

theorem IsRun.cons {c d : Char} {cs ds : List Char} (hc : c.isAlphanum = true)
    (h : ¬ Ends c (d :: cs)) (hrun : IsRun (d :: ds)) : IsRun (c :: d :: ds) := by
  obtain ⟨-, hbreak⟩ := not_or.mp h
  obtain ⟨hkind, -⟩ := not_or.mp hbreak
  rcases hrun with hd | hd
  · refine .inl (List.forall_mem_cons.mpr ⟨?_, hd⟩)
    have hdigit : c.isDigit ≠ true := fun hdigit => hkind (.inl ⟨hdigit, hd d (by simp)⟩)
    simpa [Char.isAlphanum, hdigit] using hc
  · refine .inr (List.forall_mem_cons.mpr ⟨?_, hd⟩)
    have halpha : c.isAlpha ≠ true := fun halpha => hkind (.inr ⟨halpha, hd d (by simp)⟩)
    simpa [Char.isAlphanum, halpha] using hc

theorem word?_spec {cs w rest : List Char} (h : word? cs = some (w, rest)) :
    cs = w ++ rest ∧ IsRun w := by
  induction cs generalizing w rest with
  | nil => cases h
  | cons c cs ih =>
    obtain ⟨hc, ⟨-, rfl, rfl⟩ | ⟨hends, w', rfl, hnext⟩⟩ := word?_cases h
    · refine ⟨rfl, ?_⟩
      simpa [IsRun, Char.isAlphanum] using hc
    · obtain ⟨rfl, hrun⟩ := ih hnext
      refine ⟨rfl, ?_⟩
      cases w' with
      | nil => exact absurd rfl (word?_ne_nil hnext)
      | cons d ds => exact hrun.cons hc hends

theorem isRun_of_mem_words {cs w : List Char} (hw : w ∈ words cs) : IsRun w := by
  obtain ⟨_, _, _, -, h⟩ := Matcher.exists_match_of_mem_allFrom hw
  exact (word?_spec h).2

theorem words_of_word? {cs w rest : List Char} (h : word? cs = some (w, rest)) :
    words cs = w :: words rest := by
  obtain ⟨rfl, -⟩ := word?_spec h
  have hbefore : ∀ before, Matcher.allFrom (fun _ => word?) 0 before rest = words rest := by
    intro before
    cases rest <;> rfl
  rw [words, Matcher.all, Matcher.allFrom_of_match (word?_ne_nil h) h, hbefore]

section Step

variable {c : Char} {cs : List Char}

theorem words_cons_of_not_isAlphanum (h : c.isAlphanum = false) (cs : List Char) :
    words (c :: cs) = words cs := by
  rw [words, Matcher.all, Matcher.allFrom_cons_of_none (word?_eq_none h cs)]
  cases cs <;> rfl

theorem words_cons_of_ends (hc : c.isAlphanum = true) (h : Ends c cs) :
    words (c :: cs) = [c] :: words cs :=
  words_of_word? (word?_of_ends hc h)

theorem words_cons_of_not_ends (hc : c.isAlphanum = true) (h : ¬ Ends c cs) :
    ∃ w ws, words cs = w :: ws ∧ words (c :: cs) = (c :: w) :: ws := by
  obtain ⟨w, rest, hnext, hword⟩ := word?_of_not_ends hc h
  exact ⟨w, words rest, words_of_word? hnext, words_of_word? hword⟩

end Step

/-- The words have all letters and digits of a text, in their order. -/
theorem flatten_words (cs : List Char) : (words cs).flatten = cs.filter Char.isAlphanum := by
  induction cs with
  | nil => rfl
  | cons c cs ih =>
    by_cases hc : c.isAlphanum = true
    · rw [List.filter_cons_of_pos hc, ← ih]
      by_cases hends : Ends c cs
      · rw [words_cons_of_ends hc hends]
        rfl
      · obtain ⟨w, ws, hnext, hwords⟩ := words_cons_of_not_ends hc hends
        rw [hwords, hnext]
        rfl
    · rw [List.filter_cons_of_neg hc, words_cons_of_not_isAlphanum (by simpa using hc), ih]

/-- Whether a word ends right before `front` does not depend on what comes after `front`, if a word
ends right after it. -/
theorem ends_append_iff {c : Char} {front back : List Char} (hne : front ≠ [])
    (h : ∀ d ∈ front.getLast?, d.isAlphanum = true → Ends d back) :
    Ends c (front ++ back) ↔ Ends c front := by
  match front with
  | [] => exact absurd rfl hne
  | [d] =>
    have hnext : d.isUpper = true → back.head?.any Char.isLower = false := by
      intro hu
      have hends := h d rfl (by simp [isAlphanum_eq, hu])
      cases back with
      | nil => rfl
      | cons e back => simpa using ((ends_upper_iff hu).mp hends).1
    simp only [Ends, Breaks, List.singleton_append]
    grind
  | d :: e :: front => exact Iff.rfl

theorem words_append {front back : List Char}
    (h : ∀ c ∈ front.getLast?, c.isAlphanum = true → Ends c back) :
    words (front ++ back) = words front ++ words back := by
  induction front with
  | nil => rfl
  | cons c front ih =>
    by_cases hne : front = []
    · subst hne
      by_cases hc : c.isAlphanum = true
      · have hends : Ends c [] := trivial
        rw [List.singleton_append, words_cons_of_ends hc (h c rfl hc), words_cons_of_ends hc hends]
        rfl
      · have hc : c.isAlphanum = false := by simpa using hc
        rw [List.singleton_append, words_cons_of_not_isAlphanum hc,
          words_cons_of_not_isAlphanum hc]
        rfl
    · have hrest : ∀ d ∈ front.getLast?, d.isAlphanum = true → Ends d back := fun d hd =>
        h d (by rwa [List.getLast?_cons_of_ne_nil hne])
      have ih := ih hrest
      rw [List.cons_append]
      by_cases hc : c.isAlphanum = true
      · by_cases hends : Ends c front
        · rw [words_cons_of_ends hc ((ends_append_iff hne hrest).mpr hends),
            words_cons_of_ends hc hends, ih]
          rfl
        · obtain ⟨w, ws, hnext, hwords⟩ := words_cons_of_not_ends hc hends
          obtain ⟨w', ws', hnext', hwords'⟩ := words_cons_of_not_ends hc
            (mt (ends_append_iff hne hrest).mp hends)
          rw [ih, hnext] at hnext'
          obtain ⟨rfl, rfl⟩ := List.cons.inj hnext'
          rw [hwords', hwords]
          rfl
      · have hc : c.isAlphanum = false := by simpa using hc
        rw [words_cons_of_not_isAlphanum hc, words_cons_of_not_isAlphanum hc, ih]

/-- No word goes on past a character that is no letter and no digit. -/
theorem words_append_cons {c : Char} (hc : c.isAlphanum = false) (front back : List Char) :
    words (front ++ c :: back) = words front ++ words back := by
  have hends : ∀ d, Ends d (c :: back) := fun d => .inl hc
  rw [words_append fun d _ _ => hends d, words_cons_of_not_isAlphanum hc]

/-- Of a text made of `front`, `a`, `mid`, `b` and `back`, one word has both `a` and `b`. The words
before it and the part of it before `a` are all that is taken from `front`. -/
def OneWord (front : List Char) (a : Char) (mid : List Char) (b : Char) (back : List Char) : Prop :=
  ∃ us w w' vs, words (front ++ a :: mid ++ b :: back)
      = us ++ (w ++ a :: mid.filter Char.isAlphanum ++ b :: w') :: vs
    ∧ us.flatten ++ w = front.filter Char.isAlphanum
    ∧ w' ++ vs.flatten = back.filter Char.isAlphanum

theorem not_oneWord_of_append {front mid mid' back : List Char} {a b : Char}
    (ha : a.isAlphanum = true) (hmid : mid' <+: mid)
    (h : words (front ++ a :: mid') <+: words (front ++ a :: mid ++ b :: back)) :
    ¬ OneWord front a mid b back := by
  rintro ⟨us, w, w', vs, hwords, hfront, -⟩
  obtain ⟨ws, hws⟩ := h
  have hcut := congrArg List.length (flatten_words (front ++ a :: mid'))
  have hcount := congrArg List.length hfront
  have hle : (mid'.filter Char.isAlphanum).length ≤ (mid.filter Char.isAlphanum).length :=
    (hmid.sublist.filter _).length_le
  rw [List.filter_append, List.filter_cons_of_pos ha, List.length_append, List.length_cons] at hcut
  rw [List.length_append] at hcount
  rw [← hws] at hwords
  rcases List.append_eq_append_iff.mp hwords with ⟨more, hus, -⟩ | ⟨more, hus, hvs⟩
  · rw [hus] at hcount
    simp only [List.flatten_append, List.length_append] at hcount
    omega
  · cases more with
    | nil =>
      rw [hus, List.append_nil] at hcut
      omega
    | cons word more =>
      obtain ⟨rfl, -⟩ := List.cons.inj hvs
      rw [hus] at hcut
      simp only [List.flatten_append, List.flatten_cons, List.length_append,
        List.length_cons] at hcut
      omega

theorem not_oneWord_of_separator {front mid back : List Char} {a b c : Char}
    (ha : a.isAlphanum = true) (hmem : c ∈ mid) (hc : c.isAlphanum = false) :
    ¬ OneWord front a mid b back := by
  obtain ⟨mid', mid'', rfl⟩ := List.append_of_mem hmem
  refine not_oneWord_of_append ha (List.prefix_append _ _) ⟨words (mid'' ++ b :: back), ?_⟩
  rw [← words_append_cons hc]
  simp

theorem oneWord_of_not_breaks {a b : Char} {back : List Char} (ha : a.isAlphanum = true)
    (hb : b.isAlphanum = true) (h : ¬ Breaks a b back) (front : List Char) :
    OneWord front a [] b back := by
  induction front with
  | nil =>
    have hends : ¬ Ends a (b :: back) := not_or.mpr ⟨by simp [hb], h⟩
    obtain ⟨w, ws, hnext, hwords⟩ := words_cons_of_not_ends ha hends
    have hflatten := flatten_words (b :: back)
    rw [hnext, List.filter_cons_of_pos hb, List.flatten_cons] at hflatten
    obtain ⟨c, w', rfl⟩ := List.exists_cons_of_ne_nil
      (ne_nil_of_mem_words (hnext ▸ List.mem_cons_self : w ∈ words (b :: back)))
    obtain ⟨rfl, hback⟩ := List.cons.inj hflatten
    exact ⟨[], [], w', ws, hwords, rfl, hback⟩
  | cons c front ih =>
    obtain ⟨us, w, w', vs, hwords, hfront, hback⟩ := ih
    by_cases hc : c.isAlphanum = true
    · rw [OneWord, List.filter_cons_of_pos hc, ← hfront, ← hback]
      by_cases hends : Ends c (front ++ a :: [] ++ b :: back)
      · refine ⟨[c] :: us, w, w', vs, ?_, rfl, rfl⟩
        rw [List.cons_append, List.cons_append, words_cons_of_ends hc hends, hwords,
          List.cons_append]
      · obtain ⟨first, others, hnext, hwords'⟩ := words_cons_of_not_ends hc hends
        rw [hwords] at hnext
        cases us with
        | nil =>
          obtain ⟨rfl, rfl⟩ := List.cons.inj hnext
          exact ⟨[], c :: w, w', vs, hwords', rfl, rfl⟩
        | cons u us =>
          obtain ⟨rfl, rfl⟩ := List.cons.inj hnext
          exact ⟨(c :: u) :: us, w, w', vs, hwords', rfl, rfl⟩
    · refine ⟨us, w, w', vs, ?_, ?_, hback⟩
      · rw [List.cons_append, List.cons_append, words_cons_of_not_isAlphanum (by simpa using hc),
          hwords]
      · rw [List.filter_cons_of_neg hc, hfront]

/-- Neighbours are in one word exactly where no word breaks between them. -/
theorem oneWord_iff {front back : List Char} {a b : Char} (ha : a.isAlphanum = true)
    (hb : b.isAlphanum = true) : OneWord front a [] b back ↔ ¬ Breaks a b back := by
  refine ⟨fun hone hbreaks => ?_, fun h => oneWord_of_not_breaks ha hb h front⟩
  refine not_oneWord_of_append ha (List.prefix_refl []) ⟨words (b :: back), ?_⟩ hone
  refine (words_append fun c hc _ => ?_).symm
  obtain rfl : a = c := by simpa using hc
  exact .inr hbreaks

def IsSmallRun (run : List Char) : Prop :=
  run ≠ [] ∧ ((∀ c ∈ run, c.isLower = true) ∨ ∀ c ∈ run, c.isDigit = true)

theorem isSmallRun_of_mem_smallWords {s : String} {run : List Char} (h : run ∈ smallWords s) :
    IsSmallRun run := by
  refine ⟨ne_nil_of_mem_smallWords h, ?_⟩
  obtain ⟨w, hw, rfl⟩ := List.mem_map.mp h
  refine (isRun_of_mem_words hw).imp (fun halpha => ?_) (fun hdigit => ?_)
  · refine List.forall_mem_map.mpr fun c hc => ?_
    cases hu : c.isUpper with
    | true => exact isLower_toLower hu
    | false =>
      rw [toLower_of_not_isUpper hu]
      simpa [isAlpha_eq, hu] using halpha c hc
  · refine List.forall_mem_map.mpr fun c hc => ?_
    rw [toLower_of_not_isUpper (isUpper_isLower_of_isDigit (hdigit c hc)).1]
    exact hdigit c hc

theorem IsSmallRun.map_toLower {run : List Char} (h : IsSmallRun run) :
    run.map Char.toLower = run := by
  have hupper : ∀ c ∈ run, c.isUpper = false := by
    rcases h.2 with hrun | hrun
    · exact fun c hc => (isDigit_isUpper_of_isLower (hrun c hc)).2
    · exact fun c hc => (isUpper_isLower_of_isDigit (hrun c hc)).1
  exact (List.map_congr_left fun c hc =>
    toLower_of_not_isUpper (hupper c hc)).trans (List.map_id _)

theorem IsSmallRun.words_eq {run : List Char} (h : IsSmallRun run) : words run = [run] := by
  obtain ⟨hne, hrun⟩ := h
  obtain ⟨c, cs, rfl⟩ := List.exists_cons_of_ne_nil hne
  have hword : word? (c :: cs) = some (c :: cs, []) := by
    rcases hrun with hrun | hrun
    all_goals obtain ⟨hc, hcs⟩ := List.forall_mem_cons.mp hrun
    · rw [word?_of_lower cs hc, List.takeWhile_eq_self_iff.mpr hcs,
        List.dropWhile_eq_nil_iff.mpr hcs]
    · rw [word?_of_digit cs hc, List.takeWhile_eq_self_iff.mpr hcs,
        List.dropWhile_eq_nil_iff.mpr hcs]
  exact words_of_word? hword

/-- The words of runs joined by underscores are the runs. -/
theorem words_joinWith {runs : List (List Char)} (h : ∀ run ∈ runs, IsSmallRun run) :
    words (Text.joinWith ['_'] runs) = runs := by
  induction runs with
  | nil => rfl
  | cons run runs ih =>
    obtain ⟨hrun, hrest⟩ := List.forall_mem_cons.mp h
    cases runs with
    | nil => exact hrun.words_eq
    | cons next runs =>
      rw [Text.joinWith_cons_cons, List.append_assoc, List.singleton_append,
        words_append_cons (by decide), hrun.words_eq, ih hrest]
      rfl

theorem snake_snake (s : String) : snake (snake s) = snake s := by
  have hwords : words (snake s).toList = smallWords s := by
    rw [toList_snake, words_joinWith fun _ => isSmallRun_of_mem_smallWords]
  have hsmall : smallWords (snake s) = smallWords s := by
    rw [smallWords, hwords]
    exact (List.map_congr_left fun run hrun =>
      (isSmallRun_of_mem_smallWords hrun).map_toLower).trans (List.map_id _)
  rw [← String.toList_inj, toList_snake, toList_snake, hsmall]

/-- What the words of a name are. They have all its letters and digits, in their order. Two of these
that are neighbours are in two words exactly where a digit and a letter meet, a small letter and a
capital, or two capitals with a small letter after them; and where any other character stands
between two of them, they are in two words. So snake case is made of runs of small letters or digits
with underscores between them, and its own snake case is the same. -/
theorem words_boundaries (s : String) :
    (words s.toList).flatten = s.toList.filter Char.isAlphanum
      ∧ (∀ front a b back, s.toList = front ++ a :: b :: back → a.isAlphanum = true →
        b.isAlphanum = true → (¬ OneWord front a [] b back ↔ Breaks a b back))
      ∧ (∀ front a mid b back, s.toList = front ++ a :: mid ++ b :: back → a.isAlphanum = true →
        b.isAlphanum = true → (∃ c ∈ mid, c.isAlphanum = false) → ¬ OneWord front a mid b back)
      ∧ (∃ runs, (snake s).toList = Text.joinWith ['_'] runs ∧ ∀ run ∈ runs, IsSmallRun run)
      ∧ snake (snake s) = snake s := by
  refine ⟨flatten_words _, ?_, ?_, ?_, snake_snake s⟩
  · intro front a b back _ ha hb
    rw [oneWord_iff ha hb, not_not]
  · rintro front a mid b back - ha - ⟨c, hmem, hc⟩
    exact not_oneWord_of_separator ha hmem hc
  · exact ⟨smallWords s, toList_snake s, fun _ => isSmallRun_of_mem_smallWords⟩

example : (words "getHTTPStatus2xx_OK".toList).map String.ofList
    = ["get", "HTTP", "Status", "2", "xx", "OK"] := by
  decide

end SmithyGen.Naming
