import Mathlib.Data.Int.Cast.Defs
import Mathlib.Order.Defs.LinearOrder
import SmithyGen.Proofs.BoundName
import SmithyGen.Proofs.Symbol

namespace SmithyGen.Check

open Code

/-- What an attribute holds: nothing, a text, a number, or something else that has a length. -/
inductive Datum (N : Type) where
  | none
  | text (s : String)
  | number (x : N)
  | sized (length : Nat)

namespace Datum

variable {N : Type}

def length? : Datum N → Option Nat
  | .text s => some s.length
  | .sized n => some n
  | _ => Option.none

def number? : Datum N → Option N
  | .number x => some x
  | _ => Option.none

def text? : Datum N → Option String
  | .text s => some s
  | _ => Option.none

def isNone : Datum N → Bool
  | .none => true
  | _ => false

theorem isNone_iff {d : Datum N} : d.isNone = true ↔ d = .none := by
  cases d <;> simp [isNone]

end Datum

/-- A value of a generated type with its attributes, the other types that its module names, and
which patterns are found in which texts. -/
structure Subject (N : Type) where
  typeName : String
  types : List String
  attributes : String → Option (Datum N)
  isFound : (pattern text : String) → Bool

/-- The attribute that a word stands for in the text of the type. -/
def Subject.valueOf {N : Type} (x : Subject N) (word : String) : Option (Datum N) :=
  (boundName? x.typeName word).bind x.attributes

inductive Quantity (N : Type) where
  | int (n : Int)
  | number (x : N)

inductive Operand where
  | attributeOf (name : String)
  | lengthOf (name : String)
  | int (n : Int)
deriving DecidableEq, Repr

inductive Relation where
  | atMost
  | below
  | above
deriving DecidableEq, Repr

inductive Test where
  | isMissing
  | isPresent (name : String)
  | isFound (pattern name : String)
  | compare (a : Operand) (r : Relation) (b : Operand)
  | not (t : Test)
  | and (t u : Test)
deriving DecidableEq, Repr

def Operand.words : Operand → List String
  | .attributeOf name | .lengthOf name => [name]
  | .int _ => []

def Test.words : Test → List String
  | .isMissing => []
  | .isPresent name | .isFound _ name => [name]
  | .compare a _ b => a.words ++ b.words
  | .not t => t.words
  | .and t u => t.words ++ u.words

inductive Message where
  | text (s : String)
  | joined (start separator : String)
deriving DecidableEq, Repr

inductive Statement where
  | collect (pairs : List (String × String))
  | branch (t : Test)
  | refuse (m : Message)
deriving DecidableEq, Repr

def Statement.words : Statement → List String
  | .branch t => t.words
  | _ => []

section Reading

def operand? : List Symbol → Option (Operand × List Symbol)
  | .word "len" :: .sign "(" :: .word "self" :: .sign "." :: .word name :: .sign ")" :: ss =>
    some (.lengthOf name, ss)
  | .word "self" :: .sign "." :: .word name :: ss => some (.attributeOf name, ss)
  | .number n :: ss => some (.int n, ss)
  | _ => none

def relation? : List Symbol → Option (Relation × List Symbol)
  | .sign "<=" :: ss => some (.atMost, ss)
  | .sign "<" :: ss => some (.below, ss)
  | .sign ">" :: ss => some (.above, ss)
  | _ => none

/-- A comparison, or two of them that share their middle. -/
def comparison? (ss : List Symbol) : Option (Test × List Symbol) := do
  let (a, ss) ← operand? ss
  let (r, ss) ← relation? ss
  let (b, ss) ← operand? ss
  match relation? ss with
  | some (r', ss) =>
    let (c, ss) ← operand? ss
    return (.and (.compare a r b) (.compare b r' c), ss)
  | none => return (.compare a r b, ss)

def atom? : List Symbol → Option (Test × List Symbol)
  | .word "missing" :: ss => some (.isMissing, ss)
  | .word "re" :: .sign "." :: .word "search" :: .sign "(" :: .text pattern :: .sign ","
      :: .word "self" :: .sign "." :: .word name :: .sign ")" :: ss =>
    some (.isFound pattern name, ss)
  | ss => comparison? ss

def negation? : List Symbol → Option (Test × List Symbol)
  | .word "not" :: ss => (atom? ss).map fun (t, ss) => (.not t, ss)
  | ss => atom? ss

def condition? : List Symbol → Option (Test × List Symbol)
  | .word "self" :: .sign "." :: .word name :: .word "is" :: .word "not" :: .word "None"
      :: .word "and" :: ss => (negation? ss).map fun (t, ss) => (.and (.isPresent name) t, ss)
  | ss => negation? ss

def pairs? : List Symbol → Option (List (String × String) × List Symbol)
  | .sign ")" :: ss => some ([], ss)
  | .sign "(" :: .text a :: .sign "," :: .text b :: .sign ")" :: .sign "," :: ss =>
    (pairs? ss).map fun (pairs, ss) => ((a, b) :: pairs, ss)
  | .sign "(" :: .text a :: .sign "," :: .text b :: .sign ")" :: .sign ")" :: ss =>
    some ([(a, b)], ss)
  | _ => none

def collect? : List Symbol → Option Statement
  | .word "missing" :: .sign "=" :: .sign "[" :: .word "member" :: .word "for" :: .word "name"
      :: .sign "," :: .word "member" :: .word "in" :: .sign "(" :: ss =>
    match pairs? ss with
    | some (pairs, [.word "if", .word "getattr", .sign "(", .word "self", .sign ",", .word "name",
        .sign ")", .word "is", .word "None", .sign "]"]) => some (.collect pairs)
    | _ => none
  | _ => none

def refuse? : List Symbol → Option Statement
  | [.text s, .sign ")"] => some (.refuse (.text s))
  | [.text s, .sign "+", .text separator, .sign ".", .word "join", .sign "(", .word "missing",
      .sign ")", .sign ")"] => some (.refuse (.joined s separator))
  | _ => none

def statement? : List Symbol → Option Statement
  | .word "if" :: ss =>
    match condition? ss with
    | some (t, [.sign ":"]) => some (.branch t)
    | _ => none
  | .word "raise" :: .word "ValueError" :: .sign "(" :: ss => refuse? ss
  | ss => collect? ss

/-- A line, and whether it stands in a block. Its words have to be names. -/
def line? (line : String) : Option (Bool × Statement) := do
  let s ← statement? (symbols line.toList)
  if s.words.all isFreeName then some (line.toList.head? == some ' ', s) else none

theorem line?_eq_some {line : String} {isInner : Bool} {s : Statement}
    (hs : statement? (symbols line.toList) = some s)
    (hinner : (line.toList.head? == some ' ') = isInner)
    (hwords : ∀ w ∈ s.words, isFreeName w = true) :
    line? line = some (isInner, s) := by
  subst hinner
  rw [line?, hs]
  exact if_pos (List.all_eq_true.mpr hwords)

theorem pairs?_cons {ss ss' : List Symbol} {pairs : List (String × String)}
    (h : pairs? ss = some (pairs, ss')) (a b : String) :
    pairs? (.sign "(" :: .text a :: .sign "," :: .text b :: .sign ")" :: .sign "," :: ss)
      = some ((a, b) :: pairs, ss') := by
  rw [pairs?, h]
  rfl

theorem statement?_collect {ss : List Symbol} {pairs : List (String × String)}
    (h : pairs? ss = some (pairs, [.word "if", .word "getattr", .sign "(", .word "self", .sign ",",
      .word "name", .sign ")", .word "is", .word "None", .sign "]"])) :
    statement? (.word "missing" :: .sign "=" :: .sign "[" :: .word "member" :: .word "for"
      :: .word "name" :: .sign "," :: .word "member" :: .word "in" :: .sign "(" :: ss)
        = some (.collect pairs) := by
  have hcollect : ∀ ss, statement? (.word "missing" :: ss) = collect? (.word "missing" :: ss) :=
    fun _ => rfl
  rw [hcollect, collect?, h]
  rfl

end Reading

variable {N : Type} [LinearOrder N] [IntCast N]

namespace Quantity

def le : Quantity N → Quantity N → Bool
  | .int a, .int b => a ≤ b
  | .int a, .number y => (a : N) ≤ y
  | .number x, .int b => x ≤ (b : N)
  | .number x, .number y => x ≤ y

end Quantity

def Relation.holds : Relation → Quantity N → Quantity N → Bool
  | .atMost, a, b => a.le b
  | .below, a, b => !b.le a
  | .above, a, b => !a.le b

/-- How a run ends: it comes to its end, it refuses the value, or it is stopped by an error of
another kind or by text that is no check. -/
inductive Ending where
  | passed
  | refused (message : String)
  | stopped
deriving DecidableEq, Repr

namespace Subject

def quantity? (x : Subject N) : Operand → Option (Quantity N)
  | .attributeOf name => (x.valueOf name).bind Datum.number? |>.map .number
  | .lengthOf name => (x.valueOf name).bind Datum.length? |>.map fun n => .int n
  | .int n => some (.int n)

/-- Whether a test holds, where it has a meaning. -/
def holds? (x : Subject N) (missing : Option (List String)) : Test → Option Bool
  | .isMissing => missing.map (!·.isEmpty)
  | .isPresent name => (x.valueOf name).map (!·.isNone)
  | .isFound pattern name => ((x.valueOf name).bind Datum.text?).map (x.isFound pattern)
  | .compare a r b => do return r.holds (← x.quantity? a) (← x.quantity? b)
  | .not t => (x.holds? missing t).map (!·)
  | .and t u => do if ← x.holds? missing t then x.holds? missing u else return false

theorem holds?_compare {x : Subject N} {missing : Option (List String)} {a b : Operand}
    {p q : Quantity N} (ha : x.quantity? a = some p) (hb : x.quantity? b = some q)
    (r : Relation) : x.holds? missing (.compare a r b) = some (r.holds p q) := by
  rw [holds?, ha, hb]
  rfl

theorem holds?_not {x : Subject N} {missing : Option (List String)} {t : Test} {v : Bool}
    (h : x.holds? missing t = some v) : x.holds? missing (.not t) = some !v := by
  rw [holds?, h]
  rfl

theorem holds?_and {x : Subject N} {missing : Option (List String)} {t u : Test} {v w : Bool}
    (ht : x.holds? missing t = some v) (hu : v = true → x.holds? missing u = some w) :
    x.holds? missing (.and t u) = some (v && w) := by
  rw [holds?, ht]
  cases v with
  | false => rfl
  | true => exact hu rfl

def message? (missing : Option (List String)) : Message → Option String
  | .text s => some s
  | .joined start separator => missing.map fun names => start ++ separator.intercalate names

/-- The members whose attributes hold nothing. The attributes are asked for by texts, which stand
for themselves, and there have to be such attributes. -/
def missing? (x : Subject N) (pairs : List (String × String)) : Option (List String) :=
  if pairs.all fun p => (x.attributes p.1).isSome then
    some ((pairs.filter fun p => (x.attributes p.1).any (·.isNone)).map (·.2))
  else none

/-- Runs statements from some place on; `skipping` passes over a block whose test does not hold. -/
def runFrom (x : Subject N) : (skipping : Bool) → (missing : Option (List String)) →
    List (Bool × Statement) → Ending
  | _, _, [] => .passed
  | skipping, missing, (isInner, s) :: rest =>
    if skipping && isInner then runFrom x true missing rest
    else match s with
      | .collect pairs =>
        match x.missing? pairs with
        | some names => runFrom x false (some names) rest
        | none => .stopped
      | .branch t =>
        match x.holds? missing t with
        | some b => runFrom x (!b) missing rest
        | none => .stopped
      | .refuse m => (message? missing m).elim .stopped .refused

section Steps

variable {x : Subject N} {skipping : Bool} {missing : Option (List String)}
  {rest : List (Bool × Statement)}

theorem runFrom_collect {pairs : List (String × String)} {names : List String}
    (h : x.missing? pairs = some names) :
    x.runFrom skipping missing ((false, .collect pairs) :: rest)
      = x.runFrom false (some names) rest := by
  simp [runFrom, h]

theorem runFrom_branch {t : Test} {v : Bool} (h : x.holds? missing t = some v) :
    x.runFrom skipping missing ((false, .branch t) :: rest) = x.runFrom (!v) missing rest := by
  simp [runFrom, h]

theorem runFrom_skip (s : Statement) :
    x.runFrom true missing ((true, s) :: rest) = x.runFrom true missing rest := by
  simp [runFrom]

theorem runFrom_refuse {m : Message} {text : String} (h : message? missing m = some text)
    (isInner : Bool) : x.runFrom false missing ((isInner, .refuse m) :: rest) = .refused text := by
  simp [runFrom, h]

end Steps

/-- The functions that the lines of a check call, and the class of what they raise. -/
def calledNames : List String := ["getattr", "len", "re", "ValueError"]

def typeNames (x : Subject N) : List String := (x.typeName :: x.types).map Text.normal

/-- Runs the lines of a check. All of them are read before the first one is run, and a name that
they call must not be that of a type. -/
def run (x : Subject N) (lines : List String) : Ending :=
  if x.typeNames.any calledNames.contains then .stopped
  else (lines.mapM line?).elim .stopped (x.runFrom false none)

theorem run_of_unread {x : Subject N} {line : String} {lines : List String} (hmem : line ∈ lines)
    (h : line? line = none) : x.run lines = .stopped := by
  rw [run, Outcome.mapM_eq_none_of_mem hmem h]
  split_ifs <;> rfl

theorem run_of_not_missing {x : Subject N} {line : String} {pairs : List (String × String)}
    (hline : line? line = some (false, .collect pairs)) (h : x.missing? pairs = none)
    (lines : List String) : x.run (line :: lines) = .stopped := by
  rw [run, List.mapM_cons, hline]
  split_ifs
  · rfl
  · cases hrest : lines.mapM line? with
    | none => rfl
    | some rest =>
      change x.runFrom false none ((false, .collect pairs) :: rest) = .stopped
      simp [runFrom, h]

/-- Wherever they are run, statements refuse the value if it is wrong in some way, and else go on to
what follows them. -/
def ChecksFrom (x : Subject N) (wrong : Prop) (program : List (Bool × Statement)) : Prop :=
  ∀ skipping missing more,
    (wrong → ∃ message, x.runFrom skipping missing (program ++ more) = .refused message)
    ∧ (¬ wrong → ∃ skipping' missing',
        x.runFrom skipping missing (program ++ more) = x.runFrom skipping' missing' more)

theorem checksFrom_nil (x : Subject N) : x.ChecksFrom False [] := by
  intro skipping missing more
  exact ⟨False.elim, fun _ => ⟨skipping, missing, rfl⟩⟩

/-- The statements that come later may rely on what the earlier ones have checked. -/
theorem ChecksFrom.append {x : Subject N} {wrong wrong' : Prop}
    {program program' : List (Bool × Statement)} (h : x.ChecksFrom wrong program)
    (h' : ¬ wrong → x.ChecksFrom wrong' program') :
    x.ChecksFrom (wrong ∨ wrong') (program ++ program') := by
  intro skipping missing more
  rw [List.append_assoc]
  obtain ⟨hwrong, hright⟩ := h skipping missing (program' ++ more)
  refine ⟨?_, ?_⟩
  · intro hor
    by_cases hw : wrong
    · exact hwrong hw
    · obtain ⟨skipping', missing', heq⟩ := hright hw
      rw [heq]
      exact (h' hw skipping' missing' more).1 (hor.resolve_left hw)
  · intro hnor
    have hw : ¬ wrong := fun hw => hnor (Or.inl hw)
    obtain ⟨skipping', missing', heq⟩ := hright hw
    rw [heq]
    exact (h' hw skipping' missing' more).2 fun hw' => hnor (Or.inr hw')

/-- Lines are read, and what is read refuses the value if it is wrong in some way, where something
is known of it. -/
def Checks (x : Subject N) (known wrong : Prop) (lines : List String) : Prop :=
  ∃ program, lines.mapM line? = some program ∧ (known → x.ChecksFrom wrong program)

theorem checks_nil (x : Subject N) (known : Prop) : x.Checks known False [] :=
  ⟨[], rfl, fun _ => x.checksFrom_nil⟩

theorem Checks.append {x : Subject N} {known known' wrong wrong' : Prop}
    {lines lines' : List String} (h : x.Checks known wrong lines) (h' : x.Checks known' wrong' lines')
    (hknown : known → ¬ wrong → known') :
    x.Checks known (wrong ∨ wrong') (lines ++ lines') := by
  obtain ⟨program, hread, hchecks⟩ := h
  obtain ⟨program', hread', hchecks'⟩ := h'
  exact ⟨program ++ program', Outcome.mapM_append_eq_some hread hread', fun hk =>
    (hchecks hk).append fun hw => hchecks' (hknown hk hw)⟩

theorem Checks.mono {x : Subject N} {known known' wrong : Prop} {lines : List String}
    (h : x.Checks known wrong lines) (hknown : known' → known) : x.Checks known' wrong lines := by
  obtain ⟨program, hread, hchecks⟩ := h
  exact ⟨program, hread, fun hk => hchecks (hknown hk)⟩

theorem Checks.run_eq {x : Subject N} {known wrong : Prop} {lines : List String}
    (h : x.Checks known wrong lines) (hknown : known)
    (htypes : ∀ t ∈ x.typeNames, t ∉ calledNames) :
    (wrong → ∃ message, x.run lines = .refused message) ∧ (¬ wrong → x.run lines = .passed) := by
  obtain ⟨program, hread, hchecks⟩ := h
  have hplain : x.typeNames.any calledNames.contains = false := by
    simpa only [List.any_eq_false, List.contains_iff_mem] using htypes
  have hstart : x.run lines = x.runFrom false none program := by
    rw [run, hplain, hread]
    rfl
  have hrun := hchecks hknown false none []
  rw [List.append_nil, ← hstart] at hrun
  refine ⟨hrun.1, fun hw => ?_⟩
  obtain ⟨skipping', missing', heq⟩ := hrun.2 hw
  rw [heq]
  cases skipping' <;> rfl

end Subject

end SmithyGen.Check
