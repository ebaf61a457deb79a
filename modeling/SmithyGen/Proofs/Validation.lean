import Mathlib.Data.Int.Order.Basic
import SmithyGen.Proofs.CheckRun
import SmithyGen.Proofs.RuleLines

namespace SmithyGen

open Code Check

variable {N : Type} [LinearOrder N] [IntCast N]

namespace Bounds

/-- A quantity is less than the lower bound or more than the upper one. -/
def Excludes (b : Bounds) (q : Quantity N) : Prop :=
  (∃ k, b.min = .int k ∧ (Quantity.int k).le q = false)
    ∨ ∃ k, b.max = .int k ∧ q.le (.int k) = false

/-- The test that an operand is out of bounds. -/
def test (o : Operand) : Bounds → Test
  | ⟨.int a, .int b⟩ => .not (.and (.compare (.int a) .atMost o) (.compare o .atMost (.int b)))
  | ⟨.int a, _⟩ => .compare o .below (.int a)
  | ⟨_, .int b⟩ => .compare o .above (.int b)
  | _ => .isMissing

theorem holds?_test {b : Bounds} (h : b.Whole) {x : Subject N} {o : Operand} {q : Quantity N}
    (hq : x.quantity? o = some q) (missing : Option (List String)) :
    ∃ v, x.holds? missing (b.test o) = some v ∧ (v = true ↔ b.Excludes q) := by
  cases h with
  | between a b =>
    refine ⟨_, Subject.holds?_not (Subject.holds?_and (Subject.holds?_compare rfl hq .atMost)
      fun _ => Subject.holds?_compare hq rfl .atMost), ?_⟩
    simp [Excludes, Relation.holds]
  | atLeast a =>
    refine ⟨_, Subject.holds?_compare hq rfl .below, ?_⟩
    simp [Excludes, Relation.holds]
  | atMost b =>
    refine ⟨_, Subject.holds?_compare hq rfl .above, ?_⟩
    simp [Excludes, Relation.holds]

end Bounds

namespace Rule

/-- The test that the field of a rule is not as the rule wants it. -/
def failureTest : Rule → Test
  | .required _ => .isMissing
  | .length f b => b.test (.lengthOf f.attributeName)
  | .range f b => b.test (.attributeOf f.attributeName)
  | .pattern f p => .not (.isFound p f.attributeName)

def test (f : RuleField) (r : Rule) : Test :=
  if f.isRequired then r.failureTest else .and (.isPresent f.attributeName) r.failureTest

theorem statement?_branch {r : Rule} (h : r.Plain) {f : RuleField} (hf : r.field? = some f) :
    statement? ((branch f r).filter (· != .blank)) = some (.branch (r.test f)) := by
  cases h with
  | length _ h | range _ h =>
    obtain rfl := Option.some.inj hf
    unfold branch opening guardOf test
    split_ifs <;> cases h <;> rfl
  | pattern _ p =>
    obtain rfl := Option.some.inj hf
    unfold branch opening guardOf test
    split_ifs <;> rfl

theorem words_test {r : Rule} (h : r.Plain) {f : RuleField} (hf : r.field? = some f) :
    ∀ w ∈ (r.test f).words, w = f.attributeName := by
  intro w hw
  unfold test at hw
  cases h with
  | length _ h | range _ h =>
    obtain rfl := Option.some.inj hf
    split_ifs at hw <;> cases h
      <;> simpa [Test.words, failureTest, Bounds.test, Operand.words] using hw
  | pattern _ p =>
    obtain rfl := Option.some.inj hf
    split_ifs at hw <;> simpa [Test.words, failureTest] using hw

theorem mem_words_test {r : Rule} (h : r.Plain) {f : RuleField} (hf : r.field? = some f) :
    f.attributeName ∈ (r.test f).words := by
  unfold test
  cases h with
  | length _ h | range _ h =>
    obtain rfl := Option.some.inj hf
    split_ifs <;> cases h <;> simp [Test.words, failureTest, Bounds.test, Operand.words]
  | pattern _ p =>
    obtain rfl := Option.some.inj hf
    split_ifs <;> simp [Test.words, failureTest]

theorem statement?_spell_branch {r : Rule} (h : r.Plain) {f : RuleField} (hf : r.field? = some f)
    (hname : (Symbol.word f.attributeName).isSound = true) :
    statement? (symbols (String.ofList (spell (branch f r))).toList)
      = some (.branch (r.test f)) := by
  rw [String.toList_ofList, symbols_spell (spelled_branch h hf hname)]
  exact statement?_branch h hf

theorem line?_branch_eq_none {r : Rule} (h : r.Plain) {f : RuleField} (hf : r.field? = some f)
    (hname : (Symbol.word f.attributeName).isSound = true)
    (hfree : isFreeName f.attributeName = false) :
    line? (String.ofList (spell (branch f r))) = none := by
  have hwords : ¬ (Statement.branch (r.test f)).words.all isFreeName = true := by
    intro hall
    have hword := List.all_eq_true.mp hall _ (mem_words_test h hf)
    rw [hfree] at hword
    exact Bool.false_ne_true hword
  rw [line?, statement?_spell_branch h hf hname]
  exact if_neg hwords

/-- The field of a rule has a value that the rule does not want. -/
def Violated (x : Subject N) : Rule → Prop
  | .required fields => ∃ p ∈ fields, x.attributes p.1 = some .none
  | .length f b => ∃ n : Nat, (x.valueOf f.attributeName).bind Datum.length? = some n
      ∧ b.Excludes (.int n : Quantity N)
  | .range f b =>
    ∃ v, (x.valueOf f.attributeName).bind Datum.number? = some v ∧ b.Excludes (.number v)
  | .pattern f p =>
    ∃ s, (x.valueOf f.attributeName).bind Datum.text? = some s ∧ x.isFound p s = false

def Fits (x : Subject N) : Rule → Prop
  | .required _ => True
  | .length f _ => ∃ n, (x.valueOf f.attributeName).bind Datum.length? = some n
  | .range f _ => ∃ v, (x.valueOf f.attributeName).bind Datum.number? = some v
  | .pattern f _ => ∃ s, (x.valueOf f.attributeName).bind Datum.text? = some s

theorem holds?_failureTest {r : Rule} (h : r.Plain) {x : Subject N} (hfits : r.Fits x)
    (missing : Option (List String)) :
    ∃ v, x.holds? missing r.failureTest = some v ∧ (v = true ↔ r.Violated x) := by
  cases h with
  | length f h =>
    obtain ⟨n, hn⟩ := hfits
    have hq : x.quantity? (.lengthOf f.attributeName) = some (.int n) := by
      simp [Subject.quantity?, hn]
    obtain ⟨v, hv, hiff⟩ := Bounds.holds?_test h hq missing
    exact ⟨v, hv, by simp [hiff, Violated, hn]⟩
  | range f h =>
    obtain ⟨n, hn⟩ := hfits
    have hq : x.quantity? (.attributeOf f.attributeName) = some (.number n) := by
      simp [Subject.quantity?, hn]
    obtain ⟨v, hv, hiff⟩ := Bounds.holds?_test h hq missing
    exact ⟨v, hv, by simp [hiff, Violated, hn]⟩
  | pattern f p =>
    obtain ⟨s, hs⟩ := hfits
    have hfound : x.holds? missing (.isFound p f.attributeName) = some (x.isFound p s) := by
      simp [Subject.holds?, hs]
    exact ⟨_, Subject.holds?_not hfound, by simp [Violated, hs]⟩

theorem not_violated_of_none {r : Rule} {f : RuleField} (hf : r.field? = some f) {x : Subject N}
    (hnone : x.valueOf f.attributeName = some .none) : ¬ r.Violated x := by
  cases r with
  | required => simp [field?] at hf
  | length | range | pattern =>
    obtain rfl := Option.some.inj hf
    simp [Violated, hnone, Datum.length?, Datum.number?, Datum.text?]

/-- The test of a rule has a meaning: only an optional field may be without a value, and then the
guard spares it. -/
theorem holds?_test {r : Rule} (h : r.Plain) {f : RuleField} (hf : r.field? = some f)
    {x : Subject N} {d : Datum N} (hd : x.valueOf f.attributeName = some d)
    (hreq : f.isRequired = true → d ≠ .none) (hfits : d ≠ .none → r.Fits x)
    (missing : Option (List String)) :
    ∃ v, x.holds? missing (r.test f) = some v ∧ (v = true ↔ r.Violated x) := by
  have hguard : x.holds? missing (.isPresent f.attributeName) = some (!d.isNone) := by
    simp [Subject.holds?, hd]
  by_cases hnone : d = .none
  · subst hnone
    have hopt : f.isRequired = false := by simpa using hreq
    refine ⟨false, ?_, by simp [not_violated_of_none hf hd]⟩
    rw [test, hopt]
    exact Subject.holds?_and (w := true) hguard (by simp [Datum.isNone])
  · obtain ⟨v, hv, hiff⟩ := holds?_failureTest h (hfits hnone) missing
    refine ⟨v, ?_, hiff⟩
    have hsome : d.isNone = false := by
      rw [← Bool.not_eq_true, Datum.isNone_iff]
      exact hnone
    unfold test
    split_ifs
    · exact hv
    · rw [hsome] at hguard
      exact Subject.holds?_and hguard fun _ => hv

theorem statement?_refusal (message : String) :
    statement? (symbols (spell (refusal message))) = some (.refuse (.text message)) := by
  rw [symbols_spell (spelled_refusal message)]
  rfl

theorem checks_plain {r : Rule} (h : r.Plain) {f : RuleField} (hf : r.field? = some f)
    (hname : (Symbol.word f.attributeName).isSound = true)
    (hfree : isFreeName f.attributeName = true) {x : Subject N} {d : Datum N}
    (hd : x.valueOf f.attributeName = some d) (hfits : d ≠ .none → r.Fits x) (message : String) :
    x.Checks (f.isRequired = true → d ≠ .none) (r.Violated x)
      [String.ofList (spell (branch f r)), String.ofList (spell (refusal message))] := by
  have hbranch : line? (String.ofList (spell (branch f r))) = some (false, .branch (r.test f)) := by
    refine line?_eq_some (statement?_spell_branch h hf hname) ?_ ?_
    · rw [String.toList_ofList]
      exact (by decide : (some 'i' == some ' ') = false)
    · intro w hw
      rw [words_test h hf w hw]
      exact hfree
  have hrefusal : line? (String.ofList (spell (refusal message)))
      = some (true, .refuse (.text message)) := by
    refine line?_eq_some ?_ ?_ (by simp [Statement.words])
    · rw [String.toList_ofList]
      exact statement?_refusal message
    · rw [String.toList_ofList]
      rfl
  refine ⟨[(false, .branch (r.test f)), (true, .refuse (.text message))], ?_, ?_⟩
  · simp [hbranch, hrefusal]
  intro hreq skipping missing more
  obtain ⟨v, hv, hiff⟩ := holds?_test h hf hd hreq hfits missing
  rw [List.cons_append, Subject.runFrom_branch hv]
  refine ⟨fun hviolated => ⟨message, ?_⟩, fun hviolated => ⟨true, missing, ?_⟩⟩
  · rw [hiff.mpr hviolated]
    exact Subject.runFrom_refuse rfl true
  · have hfalse : v = false := by simpa using fun ht => hviolated (hiff.mp ht)
    rw [hfalse]
    exact Subject.runFrom_skip _

def solidPair (pair : String × String) : List Symbol :=
  [.sign "(", .text pair.1, .sign ",", .text pair.2, .sign ")"]

theorem pairs?_intercalate {fields : List (String × String)} (h : fields ≠ [])
    (ss : List Symbol) :
    pairs? ([Symbol.sign ","].intercalate (fields.map solidPair) ++ .sign ")" :: ss)
      = some (fields, ss) := by
  induction fields with
  | nil => exact absurd rfl h
  | cons p fields ih =>
    cases fields with
    | nil => rfl
    | cons q fields =>
      have hq := ih (by simp)
      rw [List.map_cons, List.map_cons, List.intercalate_cons_cons, List.append_assoc,
        List.append_assoc]
      exact pairs?_cons hq p.1 p.2

theorem pairs?_tuple {fields : List (String × String)} (h : fields ≠ []) (ss : List Symbol) :
    ∃ body, (tupleSymbols (fields.map pairSymbols)).filter (· != Symbol.blank)
      = .sign "(" :: body ∧ pairs? (body ++ ss) = some (fields, ss) := by
  have hbody : (comma.intercalate (fields.map pairSymbols)).filter (· != Symbol.blank)
      = [Symbol.sign ","].intercalate (fields.map solidPair) := by
    rw [filter_intercalate, List.map_map]
    rfl
  refine ⟨_, rfl, ?_⟩
  rw [List.filter_append, List.filter_append, hbody, List.length_map, List.append_assoc,
    List.append_assoc]
  split_ifs with hone
  · obtain ⟨p, rfl⟩ := List.length_eq_one_iff.mp hone
    rfl
  · exact pairs?_intercalate h ss

theorem statement?_collection {fields : List (String × String)} (h : fields ≠ []) :
    statement? (symbols (spell (collection fields))) = some (.collect fields) := by
  obtain ⟨body, hbody, hpairs⟩ := pairs?_tuple h (collectionEnd.filter (· != Symbol.blank))
  rw [symbols_spell (spelled_collection fields), collection, List.filter_append,
    List.filter_append, hbody, List.append_assoc, List.cons_append]
  exact statement?_collect hpairs

theorem line?_collection {fields : List (String × String)} (h : fields ≠ []) :
    line? (String.ofList (spell (collection fields))) = some (false, .collect fields) := by
  refine line?_eq_some ?_ ?_ (by simp [Statement.words])
  · rw [String.toList_ofList]
    exact statement?_collection h
  · rw [String.toList_ofList]
    exact (by decide : (some 'm' == some ' ') = false)

theorem checks_required {fields : List (String × String)} (h : fields ≠ []) {x : Subject N}
    (hall : ∀ p ∈ fields, (x.attributes p.1).isSome = true) :
    x.Checks True ((required fields).Violated x)
      (String.ofList (spell (collection fields)) :: missingLines) := by
  let names := (fields.filter fun p => (x.attributes p.1).any (·.isNone)).map (·.2)
  have hcollect := line?_collection h
  have hbranch : line? "if missing:" = some (false, .branch .isMissing) := by rfl
  have hrefuse :
      line? "    raise ValueError(\"Missing required field(s): \" + \", \".join(missing))"
        = some (true, .refuse (.joined "Missing required field(s): " ", ")) := by rfl
  have hnames : x.missing? fields = some names := if_pos (List.all_eq_true.mpr hall)
  have hviolated : (!names.isEmpty) = true ↔ (required fields).Violated x := by
    simp [names, Violated, Option.any_eq_true, Datum.isNone_iff]
  refine ⟨[(false, .collect fields), (false, .branch .isMissing),
    (true, .refuse (.joined "Missing required field(s): " ", "))], ?_, ?_⟩
  · simp [missingLines, hcollect, hbranch, hrefuse]
  intro _ skipping missing more
  have hholds : x.holds? (some names) .isMissing = some (!names.isEmpty) := rfl
  rw [List.cons_append, Subject.runFrom_collect hnames, List.cons_append,
    Subject.runFrom_branch hholds]
  refine ⟨?_, ?_⟩
  · intro hv
    rw [hviolated.mpr hv]
    exact ⟨_, Subject.runFrom_refuse rfl true⟩
  · intro hv
    have hfalse : (!names.isEmpty) = false := by
      rw [← Bool.not_eq_true, hviolated]
      exact hv
    rw [hfalse]
    exact ⟨true, _, Subject.runFrom_skip _⟩

def lines (r : Rule) : Except Fault (List String) :=
  (r.code .sealed templates).map Emit.Types.textsOf

/-- Lines that check one rule after another, where something is known, check all of them. -/
theorem checks_rules {x : Subject N} {known : Prop} {rs : List Rule}
    (h : ∀ r ∈ rs, ∃ ls, r.lines = .ok ls ∧ x.Checks known (r.Violated x) ls) :
    ∃ checks, rs.mapM lines = .ok checks
      ∧ x.Checks known (∃ r ∈ rs, r.Violated x) checks.flatten := by
  induction rs with
  | nil => exact ⟨[], rfl, by simpa using x.checks_nil known⟩
  | cons r rs ih =>
    obtain ⟨ls, hls, hcheck⟩ := h r (by simp)
    obtain ⟨checks, hm, hchecks⟩ := ih fun s hs => h s (List.mem_cons_of_mem _ hs)
    refine ⟨ls :: checks, ?_, ?_⟩
    · rw [List.mapM_cons]
      exact Outcome.bind_eq_ok.mpr ⟨ls, hls, Outcome.bind_eq_ok.mpr ⟨checks, hm, rfl⟩⟩
    · simpa using hcheck.append hchecks fun hk _ => hk

end Rule

namespace Member

/-- The value of a trait for a member: its own, or else that of its target, unless the target is
built in or a structure. -/
def Merged (shapes : List Shape) (m : Member) (id : String) (v : Value) : Prop :=
  m.traits.get? id = some v
    ∨ m.traits.get? id = none ∧ (resolve shapes (some m.target)).isBuiltin = false
      ∧ (resolve shapes (some m.target)).shape.type ≠ .struct
      ∧ (resolve shapes (some m.target)).shape.traits.get? id = some v

theorem constraint?_eq_some_iff {shapes : List Shape} {m : Member} {id : String} {v : Value} :
    m.constraint? shapes id = some v ↔ m.Merged shapes id v := by
  unfold constraint? Merged
  cases h : m.traits.get? id with
  | some w => simp
  | none =>
    by_cases hb : (resolve shapes (some m.target)).isBuiltin = true
      <;> by_cases ht : (resolve shapes (some m.target)).shape.type = .struct
      <;> simp [hb, ht]

theorem bounds_eq_some_iff {shapes : List Shape} {m : Member} {id : String} {b : Bounds} :
    (m.constraint? shapes id).bind Bounds.ofTrait? = some b
      ↔ ∃ es, m.Merged shapes id (.map es) ∧ Bounds.ofEntries es = b ∧ b.isEmpty = false := by
  simp only [Option.bind_eq_some_iff, constraint?_eq_some_iff]
  constructor
  · rintro ⟨v, hv, hb⟩
    cases v with
    | map es =>
      simp only [Bounds.ofTrait?] at hb
      split_ifs at hb with he
      obtain rfl := Option.some.inj hb
      exact ⟨es, hv, rfl, by simpa using he⟩
    | _ => simp [Bounds.ofTrait?] at hb
  · rintro ⟨es, hv, rfl, he⟩
    exact ⟨.map es, hv, by simp [Bounds.ofTrait?, he]⟩

def HasWholeBounds (shapes : List Shape) (m : Member) : Prop :=
  ∀ id ∈ [Prelude.lengthTrait, Prelude.rangeTrait], ∀ es, m.Merged shapes id (.map es) →
    ∀ key ∈ ["min", "max"], Value.field es key = .null ∨ ∃ k, Value.field es key = .int k

/-- A value is of the kind that the constraints of a member are for. -/
structure Suits (shapes : List Shape) (m : Member) (d : Datum N) : Prop where
  length : ∀ es, m.Merged shapes Prelude.lengthTrait (.map es) →
    (Bounds.ofEntries es).isEmpty = false → ∃ n, d.length? = some n
  range : ∀ es, m.Merged shapes Prelude.rangeTrait (.map es) →
    (Bounds.ofEntries es).isEmpty = false → ∃ v, d.number? = some v
  pattern : ∀ p, m.Merged shapes Prelude.patternTrait (.str p) → ∃ s, d.text? = some s

/-- What the attribute of a member holds. -/
def datum? (m : Member) (x : Subject N) : Option (Datum N) :=
  x.valueOf (Naming.fieldAttribute m.name)

/-- The ways in which a value may be wrong in a member. -/
inductive Broken (shapes : List Shape) (x : Subject N) (m : Member) : Prop where
  | missing (hr : m.isRequired = true) (hd : m.datum? x = some .none)
  | tooShort {es : Entries Value} {n : Nat} {k : Int}
      (h : m.Merged shapes Prelude.lengthTrait (.map es)) (hk : Value.field es "min" = .int k)
      (hd : (m.datum? x).bind Datum.length? = some n) (hlt : n < k)
  | tooLong {es : Entries Value} {n : Nat} {k : Int}
      (h : m.Merged shapes Prelude.lengthTrait (.map es)) (hk : Value.field es "max" = .int k)
      (hd : (m.datum? x).bind Datum.length? = some n) (hlt : k < n)
  | tooSmall {es : Entries Value} {v : N} {k : Int}
      (h : m.Merged shapes Prelude.rangeTrait (.map es)) (hk : Value.field es "min" = .int k)
      (hd : (m.datum? x).bind Datum.number? = some v) (hlt : v < (k : N))
  | tooLarge {es : Entries Value} {v : N} {k : Int}
      (h : m.Merged shapes Prelude.rangeTrait (.map es)) (hk : Value.field es "max" = .int k)
      (hd : (m.datum? x).bind Datum.number? = some v) (hlt : (k : N) < v)
  | unlike {p s : String} (h : m.Merged shapes Prelude.patternTrait (.str p))
      (hd : (m.datum? x).bind Datum.text? = some s)
      (hf : x.isFound p s = false)

theorem mem_rules_iff {shapes : List Shape} {m : Member} {r : Rule} :
    r ∈ m.rules shapes
      ↔ (∃ b, (∃ es, m.Merged shapes Prelude.lengthTrait (.map es) ∧ Bounds.ofEntries es = b
            ∧ b.isEmpty = false) ∧ .length m.ruleField b = r)
        ∨ (∃ b, (∃ es, m.Merged shapes Prelude.rangeTrait (.map es) ∧ Bounds.ofEntries es = b
            ∧ b.isEmpty = false) ∧ .range m.ruleField b = r)
        ∨ ∃ p, m.Merged shapes Prelude.patternTrait (.str p) ∧ .pattern m.ruleField p = r := by
  have hpattern : ∀ p, (m.constraint? shapes Prelude.patternTrait).bind Value.str? = some p
      ↔ m.Merged shapes Prelude.patternTrait (.str p) := by
    intro p
    simp only [Option.bind_eq_some_iff, constraint?_eq_some_iff]
    constructor
    · rintro ⟨v, hv, hp⟩
      cases v with
      | str s =>
        obtain rfl := Option.some.inj hp
        exact hv
      | _ => simp [Value.str?] at hp
    · intro hv
      exact ⟨.str p, hv, rfl⟩
  simp only [rules, List.mem_append, Option.mem_toList, Option.map_eq_some_iff,
    bounds_eq_some_iff, hpattern, or_assoc]

theorem ruleField_attributeName (m : Member) :
    m.ruleField.attributeName = Naming.fieldAttribute m.name := by
  rw [ruleField, Rule.fieldOf]

theorem ruleField_isRequired (m : Member) : m.ruleField.isRequired = m.isRequired := by
  rw [ruleField, Rule.fieldOf]

theorem field?_of_mem_rules {shapes : List Shape} {m : Member} {r : Rule}
    (hr : r ∈ m.rules shapes) : r.field? = some m.ruleField := by
  rcases mem_rules_iff.mp hr with ⟨b, -, rfl⟩ | ⟨b, -, rfl⟩ | ⟨p, -, rfl⟩ <;> rfl

theorem whole_of_hasWholeBounds {shapes : List Shape} {m : Member} (h : m.HasWholeBounds shapes)
    {id : String} (hid : id ∈ [Prelude.lengthTrait, Prelude.rangeTrait]) {es : Entries Value}
    (hm : m.Merged shapes id (.map es)) (he : (Bounds.ofEntries es).isEmpty = false) :
    (Bounds.ofEntries es).Whole := by
  unfold Bounds.ofEntries at he ⊢
  rcases h id hid es hm "min" (by simp) with hmin | ⟨a, hmin⟩
    <;> rcases h id hid es hm "max" (by simp) with hmax | ⟨b, hmax⟩
  · rw [hmin, hmax] at he
    exact absurd he (by decide)
  · rw [hmin, hmax]
    exact .atMost b
  · rw [hmin, hmax]
    exact .atLeast a
  · rw [hmin, hmax]
    exact .between a b

theorem plain_of_mem_rules {shapes : List Shape} {m : Member} (h : m.HasWholeBounds shapes)
    {r : Rule} (hr : r ∈ m.rules shapes) : r.Plain := by
  rcases mem_rules_iff.mp hr with ⟨_, ⟨es, hm, rfl, he⟩, rfl⟩ | ⟨_, ⟨es, hm, rfl, he⟩, rfl⟩
    | ⟨p, -, rfl⟩
  · exact .length _ (whole_of_hasWholeBounds h (by simp) hm he)
  · exact .range _ (whole_of_hasWholeBounds h (by simp) hm he)
  · exact .pattern _ p

omit [LinearOrder N] [IntCast N] in
theorem valueOf_ruleField (m : Member) (x : Subject N) :
    x.valueOf m.ruleField.attributeName = m.datum? x := by
  rw [ruleField_attributeName, datum?]

omit [LinearOrder N] [IntCast N] in
theorem isFreeName_of_datum? {m : Member} {x : Subject N} {d : Datum N} (h : m.datum? x = some d) :
    isFreeName (Naming.fieldAttribute m.name) = true := by
  rw [datum?, Subject.valueOf] at h
  obtain ⟨a, ha, -⟩ := Option.bind_eq_some_iff.mp h
  rw [← isSome_boundName? x.typeName, ha, Option.isSome_some]

omit [LinearOrder N] [IntCast N] in
theorem fits_of_mem_rules {shapes : List Shape} {m : Member} {x : Subject N} {d : Datum N}
    (hd : m.datum? x = some d) (h : m.Suits shapes d) {r : Rule}
    (hr : r ∈ m.rules shapes) : r.Fits x := by
  rcases mem_rules_iff.mp hr with ⟨_, ⟨es, hm, rfl, he⟩, rfl⟩ | ⟨_, ⟨es, hm, rfl, he⟩, rfl⟩
    | ⟨p, hp, rfl⟩ <;> simp only [Rule.Fits, valueOf_ruleField, hd, Option.bind_some]
  · exact h.length es hm he
  · exact h.range es hm he
  · exact h.pattern p hp

theorem isEmpty_ofEntries {es : Entries Value} {key : String} (hkey : key = "min" ∨ key = "max")
    {k : Int} (hk : Value.field es key = .int k) : (Bounds.ofEntries es).isEmpty = false := by
  rcases hkey with rfl | rfl <;> simp [Bounds.ofEntries, Bounds.isEmpty, hk, Bounds.isNull]

section Violations

variable {shapes : List Shape} {m : Member} {x : Subject N} {es : Entries Value} {key : String}
  {k : Int}

theorem exists_violated_length {n : Nat} (hm : m.Merged shapes Prelude.lengthTrait (.map es))
    (hkey : key = "min" ∨ key = "max") (hk : Value.field es key = .int k)
    (hd : (m.datum? x).bind Datum.length? = some n)
    (he : (Bounds.ofEntries es).Excludes (.int n : Quantity N)) :
    ∃ r ∈ m.rules shapes, r.Violated x := by
  refine ⟨_, mem_rules_iff.mpr (Or.inl ⟨_, ⟨es, hm, rfl, isEmpty_ofEntries hkey hk⟩, rfl⟩), ?_⟩
  simp only [Rule.Violated, valueOf_ruleField]
  exact ⟨n, hd, he⟩

theorem exists_violated_range {v : N} (hm : m.Merged shapes Prelude.rangeTrait (.map es))
    (hkey : key = "min" ∨ key = "max") (hk : Value.field es key = .int k)
    (hd : (m.datum? x).bind Datum.number? = some v)
    (he : (Bounds.ofEntries es).Excludes (.number v)) :
    ∃ r ∈ m.rules shapes, r.Violated x := by
  refine ⟨_, mem_rules_iff.mpr (Or.inr (Or.inl
    ⟨_, ⟨es, hm, rfl, isEmpty_ofEntries hkey hk⟩, rfl⟩)), ?_⟩
  simp only [Rule.Violated, valueOf_ruleField]
  exact ⟨v, hd, he⟩

end Violations

/-- A member breaks a constraint where it is missing or violates one of its rules. -/
theorem broken_iff {shapes : List Shape} {m : Member} {x : Subject N} :
    m.Broken shapes x
      ↔ (m.isRequired = true ∧ m.datum? x = some .none) ∨ ∃ r ∈ m.rules shapes, r.Violated x := by
  constructor
  · intro h
    cases h with
    | missing hr hd => exact Or.inl ⟨hr, hd⟩
    | tooShort h hk hd hlt =>
      refine Or.inr (exists_violated_length h (Or.inl rfl) hk hd (Or.inl ⟨_, hk, ?_⟩))
      simpa [Quantity.le] using hlt
    | tooLong h hk hd hlt =>
      refine Or.inr (exists_violated_length h (Or.inr rfl) hk hd (Or.inr ⟨_, hk, ?_⟩))
      simpa [Quantity.le] using hlt
    | tooSmall h hk hd hlt =>
      refine Or.inr (exists_violated_range h (Or.inl rfl) hk hd (Or.inl ⟨_, hk, ?_⟩))
      simpa [Quantity.le] using hlt
    | tooLarge h hk hd hlt =>
      refine Or.inr (exists_violated_range h (Or.inr rfl) hk hd (Or.inr ⟨_, hk, ?_⟩))
      simpa [Quantity.le] using hlt
    | unlike h hd hf =>
      refine Or.inr ⟨_, mem_rules_iff.mpr (Or.inr (Or.inr ⟨_, h, rfl⟩)), ?_⟩
      simp only [Rule.Violated, valueOf_ruleField]
      exact ⟨_, hd, hf⟩
  · rintro (⟨hr, hd⟩ | ⟨r, hr, hv⟩)
    · exact .missing hr hd
    · rcases mem_rules_iff.mp hr with ⟨_, ⟨es, hm, rfl, -⟩, rfl⟩ | ⟨_, ⟨es, hm, rfl, -⟩, rfl⟩
        | ⟨p, hp, rfl⟩ <;> simp only [Rule.Violated, valueOf_ruleField] at hv
      · obtain ⟨n, hn, ⟨k, hk, hlt⟩ | ⟨k, hk, hlt⟩⟩ := hv
        · exact .tooShort hm hk hn (by simpa [Quantity.le] using hlt)
        · exact .tooLong hm hk hn (by simpa [Quantity.le] using hlt)
      · obtain ⟨v, hn, ⟨k, hk, hlt⟩ | ⟨k, hk, hlt⟩⟩ := hv
        · exact .tooSmall hm hk hn (by simpa [Quantity.le] using hlt)
        · exact .tooLarge hm hk hn (by simpa [Quantity.le] using hlt)
      · obtain ⟨s, hs, hf⟩ := hv
        exact .unlike hp hs hf

end Member

namespace Shape

/-- The rules of a member are checked by their lines, where its attribute has a value or need not
have one. -/
theorem checks_of_mem_rules {shapes : List Shape} {m : Member} {x : Subject N}
    (hwhole : m.HasWholeBounds shapes) {d : Datum N} (hd : m.datum? x = some d)
    (hsuits : d ≠ .none → m.Suits shapes d) {r : Rule} (hr : r ∈ m.rules shapes) :
    ∃ ls, r.lines = .ok ls ∧ x.Checks (m.isRequired = true → d ≠ .none) (r.Violated x) ls := by
  have hplain := Member.plain_of_mem_rules hwhole hr
  have hfield := Member.field?_of_mem_rules hr
  obtain ⟨message, hlines⟩ := Rule.lines_of_plain hplain hfield
  have hname : (Symbol.word m.ruleField.attributeName).isSound = true := by
    rw [Member.ruleField_attributeName]
    exact Naming.isSound_fieldAttribute m.name
  have hfree : isFreeName m.ruleField.attributeName = true := by
    rw [Member.ruleField_attributeName]
    exact Member.isFreeName_of_datum? hd
  have hchecks := Rule.checks_plain hplain hfield hname hfree
    ((Member.valueOf_ruleField m x).trans hd)
    (fun hsome => Member.fits_of_mem_rules hd (hsuits hsome) hr) message
  rw [Member.ruleField_isRequired] at hchecks
  exact ⟨_, hlines, hchecks⟩

def requiredFields (s : Shape) : List (String × String) :=
  s.requiredMembers.map fun m => (Naming.fieldAttribute m.name, m.name)

def requiredRules (s : Shape) : List Rule :=
  if s.requiredFields.isEmpty then [] else [.required s.requiredFields]

theorem rules_eq (shapes : List Shape) (s : Shape) :
    s.rules shapes = s.requiredRules ++ s.members.flatMap (·.rules shapes) := rfl

/-- Some required member has no value. -/
def Incomplete (s : Shape) (x : Subject N) : Prop :=
  ∃ m ∈ s.members, m.isRequired = true ∧ m.datum? x = some .none

/-- The attributes of required members can be asked for by the texts that name them. -/
def AsksByName (s : Shape) : Prop :=
  ∀ m ∈ s.members, m.isRequired = true →
    boundName? s.name (Naming.fieldAttribute m.name) = some (Naming.fieldAttribute m.name)

instance (s : Shape) : Decidable s.AsksByName :=
  inferInstanceAs (Decidable (∀ m ∈ s.members, _ → _))

theorem mem_requiredFields {s : Shape} {p : String × String} :
    p ∈ s.requiredFields ↔ ∃ m ∈ s.members, m.isRequired = true
      ∧ (Naming.fieldAttribute m.name, m.name) = p := by
  simp [requiredFields, requiredMembers, and_assoc]

omit [LinearOrder N] [IntCast N] in
theorem AsksByName.datum?_eq {s : Shape} (h : s.AsksByName) {x : Subject N}
    (htype : x.typeName = s.name) {m : Member} (hm : m ∈ s.members) (hreq : m.isRequired = true) :
    m.datum? x = x.attributes (Naming.fieldAttribute m.name) := by
  rw [Member.datum?, Subject.valueOf, htype, h m hm hreq, Option.bind_some]

theorem violated_requiredFields {s : Shape} (h : s.AsksByName) {x : Subject N}
    (htype : x.typeName = s.name) :
    (Rule.required s.requiredFields).Violated x ↔ s.Incomplete x := by
  constructor
  · rintro ⟨p, hp, hnone⟩
    obtain ⟨m, hm, hreq, rfl⟩ := mem_requiredFields.mp hp
    dsimp only at hnone
    exact ⟨m, hm, hreq, by rw [h.datum?_eq htype hm hreq, hnone]⟩
  · rintro ⟨m, hm, hreq, hnone⟩
    have hp : (Naming.fieldAttribute m.name, m.name) ∈ s.requiredFields :=
      mem_requiredFields.mpr ⟨m, hm, hreq, rfl⟩
    rw [h.datum?_eq htype hm hreq] at hnone
    exact ⟨_, hp, by dsimp only; exact hnone⟩

theorem checks_requiredRules {s : Shape} (h : s.AsksByName) {x : Subject N}
    (htype : x.typeName = s.name) (hdata : ∀ m ∈ s.members, ∃ d, m.datum? x = some d) :
    ∃ checks, s.requiredRules.mapM Rule.lines = .ok checks
      ∧ x.Checks True (s.Incomplete x) checks.flatten := by
  have hviolated := violated_requiredFields h htype
  unfold requiredRules
  split_ifs with hempty
  · have hnone : ¬ s.Incomplete x := by
      rw [← hviolated, List.isEmpty_iff.mp hempty]
      simp [Rule.Violated]
    refine ⟨[], rfl, ?_⟩
    rw [eq_false hnone]
    exact x.checks_nil True
  · refine ⟨[String.ofList (spell (Rule.collection s.requiredFields)) :: Rule.missingLines], ?_, ?_⟩
    · rw [List.mapM_cons]
      exact Outcome.bind_eq_ok.mpr ⟨_, Rule.lines_of_required _, rfl⟩
    · rw [← hviolated, List.flatten_singleton]
      refine Rule.checks_required (by simpa using hempty) fun p hp => ?_
      obtain ⟨m, hm, hreq, rfl⟩ := mem_requiredFields.mp hp
      obtain ⟨d, hd⟩ := hdata m hm
      rw [← h.datum?_eq htype hm hreq, hd]
      rfl

/-- The lines of the check of a type run to their end, without an operation on a missing value, or
refuse the value; and they refuse it exactly where a required member has none or some member breaks
one of its constraints. The attributes of required members are asked for by texts: for this, no
normal form may change them, and no class may keep them to itself. -/
theorem validations_run_iff (shapes : List Shape) (s : Shape) (x : Subject N)
    (hwhole : ∀ m ∈ s.members, m.HasWholeBounds shapes) (hnames : s.AsksByName)
    (htype : x.typeName = s.name) (htypes : ∀ t ∈ x.typeNames, t ∉ Subject.calledNames)
    (hsuits : ∀ m ∈ s.members, ∃ d, m.datum? x = some d ∧ (d ≠ .none → m.Suits shapes d)) :
    ∃ checks, Emit.Types.validations (s.rules shapes) = .ok checks
      ∧ ((∃ message, x.run checks.flatten = .refused message)
          ↔ ∃ m ∈ s.members, m.Broken shapes x)
      ∧ x.run checks.flatten ≠ .stopped := by
  obtain ⟨first, hfirst, hrequired⟩ :=
    checks_requiredRules hnames htype fun m hm => (hsuits m hm).imp fun _ => And.left
  -- The later rules rely on the first one: a required attribute they look at has a value.
  have hmembers : ∀ r ∈ s.members.flatMap (·.rules shapes),
      ∃ ls, r.lines = .ok ls ∧ x.Checks (¬ s.Incomplete x) (r.Violated x) ls := by
    intro r hr
    obtain ⟨m, hm, hr⟩ := List.mem_flatMap.mp hr
    obtain ⟨d, hd, hkind⟩ := hsuits m hm
    obtain ⟨ls, hls, hchecks⟩ := checks_of_mem_rules (hwhole m hm) hd hkind hr
    refine ⟨ls, hls, hchecks.mono fun hcomplete hreq hnone => ?_⟩
    exact hcomplete ⟨m, hm, hreq, by rw [hd, hnone]⟩
  obtain ⟨later, hlater, hrules⟩ := Rule.checks_rules hmembers
  have hlines : Emit.Types.validations (s.rules shapes) = .ok (first ++ later) := by
    change (s.rules shapes).mapM Rule.lines = _
    rw [rules_eq, List.mapM_append]
    exact Outcome.bind_eq_ok.mpr ⟨first, hfirst, Outcome.bind_eq_ok.mpr ⟨later, hlater, rfl⟩⟩
  have hbroken : (s.Incomplete x ∨ ∃ r ∈ s.members.flatMap (·.rules shapes), r.Violated x)
      ↔ ∃ m ∈ s.members, m.Broken shapes x := by
    simp only [Incomplete, Member.broken_iff, List.mem_flatMap]
    constructor
    · rintro (⟨m, hm, h⟩ | ⟨r, ⟨m, hm, hr⟩, h⟩)
      · exact ⟨m, hm, Or.inl h⟩
      · exact ⟨m, hm, Or.inr ⟨r, hr, h⟩⟩
    · rintro ⟨m, hm, h | ⟨r, hr, h⟩⟩
      · exact Or.inl ⟨m, hm, h⟩
      · exact Or.inr ⟨r, ⟨m, hm, hr⟩, h⟩
  have hchecks := hrequired.append hrules fun _ hcomplete => hcomplete
  rw [← List.flatten_append, hbroken] at hchecks
  obtain ⟨hrefused, hpassed⟩ := hchecks.run_eq trivial htypes
  refine ⟨_, hlines, ⟨?_, hrefused⟩, ?_⟩
  · rintro ⟨message, hrun⟩
    by_contra hright
    rw [hpassed hright] at hrun
    exact Ending.noConfusion hrun
  · by_cases hwrong : ∃ m ∈ s.members, m.Broken shapes x
    · obtain ⟨message, hrun⟩ := hrefused hwrong
      rw [hrun]
      exact Ending.noConfusion
    · rw [hpassed hwrong]
      exact Ending.noConfusion

/-- A required member whose attribute cannot be asked for by its text stops every run. -/
theorem run_stopped_of_unknown {shapes : List Shape} {s : Shape} {x : Subject N} {m : Member}
    (hm : m ∈ s.members) (hreq : m.isRequired = true)
    (hnone : x.attributes (Naming.fieldAttribute m.name) = none) {checks : List (List String)}
    (h : Emit.Types.validations (s.rules shapes) = .ok checks) :
    x.run checks.flatten = .stopped := by
  have hp : (Naming.fieldAttribute m.name, m.name) ∈ s.requiredFields :=
    mem_requiredFields.mpr ⟨m, hm, hreq, rfl⟩
  have hfields : s.requiredFields ≠ [] := List.ne_nil_of_mem hp
  have hrules : s.rules shapes
      = .required s.requiredFields :: s.members.flatMap (·.rules shapes) := by
    rw [rules_eq, requiredRules, if_neg (by simpa using hfields), List.singleton_append]
  change (s.rules shapes).mapM Rule.lines = .ok checks at h
  rw [hrules, List.mapM_cons] at h
  obtain ⟨first, hfirst, h⟩ := Outcome.bind_eq_ok.mp h
  obtain ⟨later, -, h⟩ := Outcome.bind_eq_ok.mp h
  obtain rfl := Except.ok.inj h
  obtain rfl := Except.ok.inj (hfirst.symm.trans (Rule.lines_of_required _))
  refine Subject.run_of_not_missing (Rule.line?_collection hfields) (if_neg fun hall => ?_) _
  have hsome := List.all_eq_true.mp hall _ hp
  dsimp only at hsome
  rw [hnone] at hsome
  exact Bool.false_ne_true hsome

/-- A constraint on an attribute that is no name stops every run. -/
theorem run_stopped_of_not_free {shapes : List Shape} {s : Shape} {x : Subject N} {m : Member}
    (hm : m ∈ s.members) (hwhole : m.HasWholeBounds shapes) {r : Rule} (hr : r ∈ m.rules shapes)
    (hfree : isFreeName (Naming.fieldAttribute m.name) = false) {checks : List (List String)}
    (h : Emit.Types.validations (s.rules shapes) = .ok checks) :
    x.run checks.flatten = .stopped := by
  have hplain := Member.plain_of_mem_rules hwhole hr
  have hfield := Member.field?_of_mem_rules hr
  rw [← Member.ruleField_attributeName] at hfree
  obtain ⟨message, hlines⟩ := Rule.lines_of_plain hplain hfield
  have hname : (Symbol.word m.ruleField.attributeName).isSound = true := by
    rw [Member.ruleField_attributeName]
    exact Naming.isSound_fieldAttribute m.name
  have hmem : r ∈ s.rules shapes := by
    rw [rules_eq]
    exact List.mem_append_right _ (List.mem_flatMap.mpr ⟨m, hm, hr⟩)
  obtain ⟨ls, hls, hok⟩ := Outcome.exists_image_of_mapM_eq_ok h hmem
  obtain rfl := Except.ok.inj (hok.symm.trans hlines)
  exact Subject.run_of_unread (List.mem_flatten_of_mem hls List.mem_cons_self)
    (Rule.line?_branch_eq_none hplain hfield hname hfree)

def reviewShape : Shape :=
  { id := "shop#Review", name := "Review", type := .struct
    members := [
      { name := "title", target := "smithy.api#String"
        traits := [(Prelude.requiredTrait, .map []),
          (Prelude.lengthTrait, .map [("min", .int 1), ("max", .int 5)])] },
      { name := "rating", target := "smithy.api#Integer"
        traits := [(Prelude.rangeTrait, .map [("max", .int 10)])] }] }

def shortReview : Subject Int :=
  { typeName := "Review"
    types := []
    attributes := fun name =>
      if name = "title" then some (.text "fine") else if name = "rating" then some .none else none
    isFound := fun _ _ => false }

theorem merged_reviewShape {m : Member} (hm : m ∈ reviewShape.members) {id : String} {v : Value}
    (h : m.Merged [] id v) : m.traits.get? id = some v := by
  rcases h with h | ⟨-, hb, -⟩
  · exact h
  · simp only [reviewShape, List.mem_cons, List.not_mem_nil, or_false] at hm
    rcases hm with rfl | rfl <;> exact absurd hb (by decide)

theorem validations_run_shortReview :
    ∃ checks, Emit.Types.validations (reviewShape.rules []) = .ok checks
      ∧ ((∃ message, shortReview.run checks.flatten = .refused message)
          ↔ ∃ m ∈ reviewShape.members, m.Broken [] shortReview)
      ∧ shortReview.run checks.flatten ≠ .stopped := by
  refine validations_run_iff [] reviewShape shortReview ?_ (by decide +kernel) rfl
    (by decide +kernel) ?_
  · intro m hm id hid es hes key hkey
    have htrait := merged_reviewShape hm hes
    simp only [reviewShape, List.mem_cons, List.not_mem_nil, or_false] at hm hid hkey
    rcases hm with rfl | rfl <;> rcases hid with rfl | rfl <;> cases htrait
    · rcases hkey with rfl | rfl
      · exact Or.inr ⟨1, rfl⟩
      · exact Or.inr ⟨5, rfl⟩
    · rcases hkey with rfl | rfl
      · exact Or.inl rfl
      · exact Or.inr ⟨10, rfl⟩
  · intro m hm
    have hmerged := @merged_reviewShape m hm
    simp only [reviewShape, List.mem_cons, List.not_mem_nil, or_false] at hm
    rcases hm with rfl | rfl
    · refine ⟨.text "fine", by rfl, fun _ => ⟨fun es _ _ => ⟨4, rfl⟩, ?_, ?_⟩⟩
      · intro es hes
        cases hmerged hes
      · intro p hp
        cases hmerged hp
    · exact ⟨.none, by rfl, fun hsome => absurd rfl hsome⟩

/-- A required member that is named by the micro sign. Its attribute is named by the Greek
letter. -/
def glyphMember : Member :=
  { name := "µ", target := "smithy.api#String", traits := [(Prelude.requiredTrait, .map [])] }

def glyphShape : Shape :=
  { id := "shop#Glyph", name := "Glyph", type := .struct, members := [glyphMember] }

def glyph : Subject Int :=
  { typeName := "Glyph"
    types := []
    attributes := fun name => if name = "μ" then some (.text "m") else none
    isFound := fun _ _ => false }

theorem hasWholeBounds_glyphMember : glyphMember.HasWholeBounds [] := by
  intro id hid es hmerged
  simp only [List.mem_cons, List.not_mem_nil, or_false] at hid
  rcases hmerged with htrait | ⟨-, hb, -⟩
  · rcases hid with rfl | rfl <;> cases htrait
  · exact absurd hb (by decide)

/-- The attribute has a value, and the run is stopped: nothing goes by the text of the member. -/
theorem validations_stop_glyph :
    (∀ m ∈ glyphShape.members, m.HasWholeBounds [] ∧ m.datum? glyph = some (.text "m")
        ∧ ¬ m.Broken [] glyph)
      ∧ ∃ checks, Emit.Types.validations (glyphShape.rules []) = .ok checks
        ∧ glyph.run checks.flatten = .stopped := by
  have hbound : boundName? "Glyph" (Naming.fieldAttribute glyphMember.name) = some "μ" := by
    decide +kernel
  have hunknown : glyph.attributes (Naming.fieldAttribute glyphMember.name) = none := by
    decide +kernel
  have hdatum : glyphMember.datum? glyph = some (.text "m") := by
    rw [Member.datum?, Subject.valueOf]
    exact Option.bind_eq_some_iff.mpr ⟨"μ", hbound, rfl⟩
  have hrules : glyphMember.rules [] = [] := by rfl
  have hsound : ¬ glyphMember.Broken [] glyph := by
    rw [Member.broken_iff, hdatum, hrules]
    simp
  refine ⟨fun m hm => ?_, ?_⟩
  · obtain rfl := List.mem_singleton.mp hm
    exact ⟨hasWholeBounds_glyphMember, hdatum, hsound⟩
  · obtain ⟨checks, hchecks⟩ := Emit.Types.validations_isOk (glyphShape.rules [])
    have hmem : glyphMember ∈ glyphShape.members := List.mem_singleton_self _
    exact ⟨checks, hchecks, run_stopped_of_unknown hmem (by rfl) hunknown hchecks⟩

end Shape

end SmithyGen
