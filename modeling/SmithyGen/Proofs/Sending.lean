import SmithyGen.Proofs.BoundName
import SmithyGen.Proofs.Call
import SmithyGen.Proofs.PathLiteral

namespace SmithyGen

/-- The last item for each key. -/
def lastOfEach {α β : Type} [BEq β] (key : α → β) : List α → List α
  | [] => []
  | x :: xs =>
    if (xs.map key).contains (key x) then lastOfEach key xs else x :: lastOfEach key xs

section LastOfEach

variable {α β : Type} [BEq β] [LawfulBEq β] {key : α → β}

theorem mem_lastOfEach_iff {x : α} {xs : List α} :
    x ∈ lastOfEach key xs ↔ (xs.filter (key · == key x)).getLast? = some x := by
  induction xs with
  | nil => simp [lastOfEach]
  | cons y ys ih =>
    have hsame : (ys.filter (key · == key x)) ≠ [] ↔ key x ∈ ys.map key := by
      simp only [ne_eq, List.filter_eq_nil_iff, beq_iff_eq, List.mem_map]
      push Not
      rfl
    rw [lastOfEach, List.filter_cons]
    split_ifs with hlater hkey hkey
    · have hne : ys.filter (key · == key x) ≠ [] := by
        rw [hsame, ← eq_of_beq hkey]
        exact List.contains_iff_mem.mp hlater
      rw [ih, List.getLast?_cons, List.getLast?_eq_some_getLast hne, Option.getD_some]
    · exact ih
    · have hnil : ys.filter (key · == key x) = [] := by
        rw [← not_ne_iff, hsame, ← eq_of_beq hkey]
        exact fun hmem => hlater (List.contains_iff_mem.mpr hmem)
      rw [List.mem_cons, ih, hnil]
      simp [eq_comm]
    · have hne : x ≠ y := by
        rintro rfl
        exact hkey (beq_self_eq_true _)
      rw [List.mem_cons, ih]
      simp [hne]

theorem lastOfEach_eq_self {xs : List α} (h : (xs.map key).Nodup) : lastOfEach key xs = xs := by
  induction xs with
  | nil => rfl
  | cons x xs ih =>
    rw [List.map_cons, List.nodup_cons] at h
    rw [lastOfEach, if_neg fun hlater => h.1 (List.contains_iff_mem.mp hlater), ih h.2]

omit [LawfulBEq β] in
theorem lastOfEach_map {γ : Type} (f : γ → α) (xs : List γ) :
    lastOfEach key (xs.map f) = (lastOfEach (fun x => key (f x)) xs).map f := by
  induction xs with
  | nil => rfl
  | cons x xs ih =>
    have hkeys : (xs.map f).map key = xs.map fun x => key (f x) := by
      rw [List.map_map]
      rfl
    rw [List.map_cons, lastOfEach, lastOfEach, hkeys, ih]
    split_ifs <;> rfl

end LastOfEach

namespace Shape

/-- The attribute of a member in its class, and the name under which the value is written. No other
name is set where the attribute has the text of the member, and then what counts is what the class
makes of it. -/
def writtenField? (s : Shape) (m : Member) : Option (String × String) := do
  let bound ← Code.boundName? s.name (Naming.fieldAttribute m.name)
  if Naming.boundNames.contains bound then none
  else some (bound, if Naming.fieldAttribute m.name = m.name then bound else m.name)

/-- The names that are written for fields. Fields with one attribute are one field, the last of
them; and a required field that an optional one replaces has a default value, so that only such
fields may follow. -/
def keptNames? (required optional : List (String × String)) : Option (List String) :=
  let replaced := required.map fun field => (optional.map (·.1)).contains field.1
  if replaced.Pairwise (· ≤ ·) then some ((lastOfEach (·.1) (required ++ optional)).map (·.2))
  else none

def writtenNames? (s : Shape) : Option (List String) := do
  let required ← (s.members.filter (·.isRequired)).mapM s.writtenField?
  let optional ← (s.members.filter (!·.isRequired)).mapM s.writtenField?
  keptNames? required optional

theorem keptNames?_eq {required optional : List (String × String)}
    (h : ((required ++ optional).map (·.1)).Nodup) :
    keptNames? required optional = some ((required ++ optional).map (·.2)) := by
  have hkept : required.map (fun field => (optional.map (·.1)).contains field.1)
      = required.map fun _ => false := by
    rw [List.map_append, List.nodup_append] at h
    refine List.map_congr_left fun field hfield => ?_
    rw [Bool.eq_false_iff]
    intro hmem
    exact h.2.2 field.1 (List.mem_map_of_mem hfield) field.1 (List.contains_iff_mem.mp hmem) rfl
  have hordered : (required.map fun _ => false).Pairwise (· ≤ ·) := by
    rw [List.map_const']
    exact List.pairwise_replicate.mpr (Or.inr le_rfl)
  rw [keptNames?, hkept, if_pos hordered, lastOfEach_eq_self h]

/-- The members of a shape have attributes that differ, and that the class leaves as they are. -/
structure HasOwnFields (s : Shape) : Prop where
  nodup : (s.members.map fun m => Naming.fieldAttribute m.name).Nodup
  bound : ∀ m ∈ s.members, Code.boundName? s.name (Naming.fieldAttribute m.name)
    = some (Naming.fieldAttribute m.name)

theorem fieldAttribute_not_mem_boundNames (name : String) :
    Naming.fieldAttribute name ∉ Naming.boundNames := by
  have hmoved : ∀ a ∈ Naming.boundNames, a ++ "_" ∉ Naming.boundNames := by decide
  rw [Naming.fieldAttribute]
  split_ifs with h
  · exact hmoved _ (List.contains_iff_mem.mp h)
  · exact fun hmem => h (List.contains_iff_mem.mpr hmem)

variable {s : Shape}

def fieldOf (m : Member) : String × String := (Naming.fieldAttribute m.name, m.name)

theorem HasOwnFields.writtenField?_eq (h : s.HasOwnFields) {m : Member} (hm : m ∈ s.members) :
    s.writtenField? m = some (fieldOf m) := by
  have hfree : Naming.boundNames.contains (Naming.fieldAttribute m.name) = false := by
    rw [Bool.eq_false_iff]
    exact fun hmem => fieldAttribute_not_mem_boundNames m.name (List.contains_iff_mem.mp hmem)
  rw [writtenField?, h.bound m hm, Option.bind_eq_bind, Option.bind_some, hfree,
    if_neg Bool.false_ne_true]
  split_ifs with hname
  · rw [fieldOf, hname]
  · rfl

theorem HasOwnFields.mem_writtenNames (h : s.HasOwnFields) :
    ∃ names, s.writtenNames? = some names
      ∧ ∀ name, name ∈ names ↔ name ∈ s.members.map (·.name) := by
  have hread : ∀ p : Member → Bool, (s.members.filter p).mapM s.writtenField?
      = some ((s.members.filter p).map fieldOf) := fun p =>
    Outcome.mapM_eq_some_map fun m hm => h.writtenField?_eq (List.mem_of_mem_filter hm)
  obtain ⟨required, optional, hperm, hnames⟩ : ∃ required optional : List Member,
      (required ++ optional).Perm s.members ∧ s.writtenNames?
        = keptNames? (required.map fieldOf) (optional.map fieldOf) := by
    refine ⟨_, _, List.filter_append_perm (·.isRequired) s.members, ?_⟩
    rw [writtenNames?, hread, hread]
    rfl
  have hfields : ((required ++ optional).map fun m => Naming.fieldAttribute m.name).Nodup := by
    rw [(hperm.map _).nodup_iff]
    exact h.nodup
  have hmembers := hperm.map (·.name)
  refine ⟨(required ++ optional).map (·.name), ?_, fun name => hmembers.mem_iff⟩
  rw [hnames, keptNames?_eq]
  · simp [fieldOf, Function.comp_def]
  · simpa [fieldOf, Function.comp_def] using hfields

end Shape

namespace Call

open Code

section Reading

def answerType? : List Symbol → Option String
  | [.word "return", .word type, .sign ".", .word "from_dict", .sign "(", .word "_response_json",
      .sign "(", .word "operation", .sign "=", .text _, .sign ",", .word "response", .sign "=",
      .word "response", .sign ")", .sign ",", .word "infer_missing", .sign "=", .word "True",
      .sign ")"] => some type
  | _ => none

def isIdle (ss : List Symbol) : Bool :=
  (preparation? ss).isSome || (answerType? ss).any isSharedName

/-- The step of a line that can be run. The text of a path has to be a literal, and all words have
to be names. -/
def line? (line : String) : Option Step :=
  match step? (symbols line.toList) with
  | some (.path _) => do
    let text ← "path = ".toList.isPrefixOf? line.toList
    return .path ((← UriTemplate.filledLabels? text).map (·.1))
  | some .pass => if isIdle (symbols line.toList) then some .pass else none
  | step => step

end Reading

section Running

/-- Takes names out of those that are left, if all of them are there. -/
def takeAll? : (left names : List String) → Option (List String)
  | left, [] => some left
  | left, name :: names =>
    if left.contains name then takeAll? (left.filter (· != name)) names else none

/-- The entries of a dictionary, each with what is taken out for it, if that is left. -/
def takeEach : (left : List String) → List (String × String) → List (String × Option String)
  | _, [] => []
  | left, (key, name) :: entries =>
    (key, if left.contains name then some name else none)
      :: takeEach (left.filter (· != name)) entries

/-- A dictionary has the last entry of each key, and then no entries without a value. -/
def dictionary (left : List String) (entries : List (String × String)) : List (String × String) :=
  (lastOfEach (·.1) (takeEach left entries)).filterMap fun (key, name?) => name?.map (key, ·)

def without (left : List String) (entries : List (String × String)) : List String :=
  left.filter fun name => !(entries.map (·.2)).contains name

/-- What a call sends, and the names that are left in the input. -/
structure Sent where
  method : String
  status : Int
  labels : List String
  query : List (String × String)
  headers : List (String × String)
  body : Option Body
  left : List String
deriving DecidableEq, Repr

/-- Whether a member is in a slot of what is sent. -/
def Sent.Has (r : Sent) (name : String) : Slot → Prop
  | .label l => l = name ∧ name ∈ r.labels
  | .query key => (key, name) ∈ r.query
  | .header key => (key, name) ∈ r.headers
  | .document => r.body = some (.member name) ∧ name ∈ r.left
  | .field f => f = name ∧ r.body = some .rest ∧ name ∈ r.left

structure State where
  left : List String
  labels : List String := []
  params : List (String × String) := []
  headers : List (String × String) := []

def State.send (s : State) (method : String) (status : Int) (arguments : List Argument) :
    Sent where
  method := method
  status := status
  labels := s.labels
  query := if .params ∈ arguments then s.params else []
  headers := if .headers ∈ arguments then s.headers else []
  body := arguments.findSome? Argument.body?
  left := s.left

/-- Runs the steps of a call until it sends something. A label that is not left ends the call. -/
def runFrom : State → List Step → Option Sent
  | _, [] => none
  | s, .pass :: steps => runFrom s steps
  | s, .path labels :: steps => do runFrom { s with left := ← takeAll? s.left labels, labels } steps
  | s, .params entries :: steps =>
    runFrom { s with left := without s.left entries, params := dictionary s.left entries } steps
  | s, .headers entries :: steps =>
    runFrom { s with left := without s.left entries, headers := dictionary s.left entries } steps
  | s, .send method status arguments :: _ => some (s.send method status arguments)

/-- Names that calls and what they call use, besides those of types. -/
def usedNames : List String :=
  ["self", "input_data", "payload", "path", "params", "headers", "response", "str", "_quote",
   "_compact", "_response_json", "quote", "httpx", "os"]

/-- Runs the lines of a call whose input has some names, in a module that names some types. All
lines are read before the first one is run. -/
def run (types names : List String) (lines : List String) : Option Sent :=
  if types.all (isImportable usedNames) then (lines.mapM line?).bind (runFrom { left := names })
  else none

end Running

section Taking

variable {left : List String} {entries : List (String × String)}

theorem takeAll?_eq (left names : List String) :
    takeAll? left names
      = if names.Nodup ∧ ∀ n ∈ names, n ∈ left then some (left.filter (!names.contains ·))
        else none := by
  induction names generalizing left with
  | nil => simp [takeAll?]
  | cons n ns ih =>
    rw [takeAll?, ih]
    have hrest : (ns.Nodup ∧ ∀ l ∈ ns, l ∈ left.filter (· != n))
        ↔ n ∉ ns ∧ ns.Nodup ∧ ∀ l ∈ ns, l ∈ left := by
      simp only [List.mem_filter, bne_iff_ne]
      constructor
      · rintro ⟨hnodup, hall⟩
        exact ⟨fun hmem => (hall n hmem).2 rfl, hnodup, fun l hl => (hall l hl).1⟩
      · rintro ⟨hnew, hnodup, hall⟩
        exact ⟨hnodup, fun l hl => ⟨hall l hl, fun heq => hnew (heq ▸ hl)⟩⟩
    have hleft : (left.filter (· != n)).filter (!ns.contains ·)
        = left.filter (!(n :: ns).contains ·) := by
      rw [List.filter_filter]
      refine List.filter_congr fun l _ => ?_
      simp only [List.contains_cons, Bool.not_or]
      exact Bool.and_comm _ _
    rw [if_congr hrest rfl rfl, hleft]
    by_cases hmem : n ∈ left <;> simp [hmem, and_assoc]

theorem takeEach_eq (hnodup : (entries.map (·.2)).Nodup) (hleft : ∀ e ∈ entries, e.2 ∈ left) :
    takeEach left entries = entries.map fun e => (e.1, some e.2) := by
  induction entries generalizing left with
  | nil => rfl
  | cons e es ih =>
    obtain ⟨key, name⟩ := e
    rw [List.map_cons, List.nodup_cons] at hnodup
    have hmem : left.contains name = true := List.contains_iff_mem.mpr (hleft (key, name) (by simp))
    have hrest : ∀ e ∈ es, e.2 ∈ left.filter (· != name) := by
      intro e he
      refine List.mem_filter.mpr ⟨hleft e (by simp [he]), bne_iff_ne.mpr fun heq => hnodup.1 ?_⟩
      exact List.mem_map.mpr ⟨e, he, heq⟩
    rw [takeEach, hmem, if_pos rfl, ih hnodup.2 hrest]
    rfl

theorem dictionary_eq (hnodup : (entries.map (·.2)).Nodup) (hleft : ∀ e ∈ entries, e.2 ∈ left) :
    dictionary left entries = lastOfEach (·.1) entries := by
  rw [dictionary, takeEach_eq hnodup hleft, lastOfEach_map, List.filterMap_map]
  change (lastOfEach (·.1) entries).filterMap (fun e => some (e.1, e.2)) = _
  simp

theorem without_nil (left : List String) : without left [] = left := by
  simp [without]

end Taking

open Emit.Client

/-- What a call sends, by its plan. -/
def sentOf (o : Operation) (p : SendPlan) (names : List String) : Sent :=
  let left := names.filter (!(labelsOf o p).contains ·)
  { method := o.http.method
    status := o.http.code
    labels := labelsOf o p
    query := dictionary left (p.query.map entryOf)
    headers := dictionary (without left (p.query.map entryOf)) (p.headers.map entryOf)
    body := bodyOf o p
    left := names.filter (!(requestOf o p).taken.contains ·) }

theorem left_eq (o : Operation) (p : SendPlan) (names : List String) :
    without (without (names.filter (!(labelsOf o p).contains ·)) (p.query.map entryOf))
        (p.headers.map entryOf) = (sentOf o p names).left := by
  simp only [without, sentOf, requestOf, List.filter_filter, List.map_map]
  refine List.filter_congr fun name _ => ?_
  rw [Bool.eq_iff_iff]
  simp only [Bool.and_eq_true, Bool.not_eq_true', Bool.eq_false_iff, ne_eq, List.contains_iff_mem,
    List.mem_append, not_or]
  constructor
  · rintro ⟨hheader, hquery, hlabel⟩
    exact ⟨⟨hlabel, hquery⟩, hheader⟩
  · rintro ⟨⟨hlabel, hquery⟩, hheader⟩
    exact ⟨hheader, hquery, hlabel⟩

/-- What is not sent is empty. -/
theorem ite_dictionary {ms : List Member} {left : List String} {b : Prop} [Decidable b]
    (h : b ↔ ms ≠ []) :
    (if b then dictionary left (ms.map entryOf) else []) = dictionary left (ms.map entryOf) := by
  split_ifs with hb
  · rfl
  · rw [not_not.mp fun hne => hb (h.mpr hne)]
    rfl

/-- The state in which a call sends, from the names that its path leaves. -/
def stateOf (o : Operation) (p : SendPlan) (left : List String) : State where
  left := without (without left (p.query.map entryOf)) (p.headers.map entryOf)
  labels := labelsOf o p
  params := dictionary left (p.query.map entryOf)
  headers := dictionary (without left (p.query.map entryOf)) (p.headers.map entryOf)

theorem send_stateOf (o : Operation) (p : SendPlan) (names : List String) :
    (stateOf o p (names.filter (!(labelsOf o p).contains ·))).send o.http.method o.http.code
      (argumentsOf o p) = sentOf o p names := by
  rw [stateOf, left_eq, State.send, ite_dictionary (params_mem_argumentsOf o p),
    ite_dictionary (headers_mem_argumentsOf o p), findSome?_argumentsOf]
  rfl

theorem runFrom_stepsOf (o : Operation) (p : SendPlan) (names : List String) :
    runFrom { left := names } (stepsOf o p)
      = if (labelsOf o p).Nodup ∧ ∀ l ∈ labelsOf o p, l ∈ names then some (sentOf o p names)
        else none := by
  have hsteps : runFrom { left := names } (stepsOf o p)
      = (takeAll? names (labelsOf o p)).map fun left =>
          (stateOf o p left).send o.http.method o.http.code (argumentsOf o p) := by
    unfold stepsOf stateOf
    generalize argumentsOf o p = arguments
    change _ = (takeAll? names ((UriTemplate.params o.http.uri).filter p.labels.contains)).map _
    cases o.input.isSome <;> cases p.query <;> cases p.headers
    all_goals
      simp only [List.isEmpty_nil, List.isEmpty_cons, Bool.false_eq_true, if_true, if_false,
        List.map_nil, without_nil, List.cons_append, List.nil_append, runFrom]
      cases takeAll? names ((UriTemplate.params o.http.uri).filter p.labels.contains) <;> rfl
  rw [hsteps, takeAll?_eq]
  split_ifs
  · rw [Option.map_some, send_stateOf]
  · rfl

theorem line?_path (uri : String) (bound : List String) :
    line? ("path = " ++ UriTemplate.pathExpression uri bound)
      = if UriTemplate.CanFill uri bound then
          some (.path ((UriTemplate.params uri).filter bound.contains))
        else none := by
  have hassigned : "path = ".toList.isPrefixOf?
      ("path = " ++ UriTemplate.pathExpression uri bound).toList
        = some (UriTemplate.pathExpression uri bound).toList :=
    List.isPrefixOf?_eq_some_iff_append_eq.mpr String.toList_append.symm
  rw [line?, step?_path]
  simp only [hassigned, Option.bind_eq_bind, Option.bind_some,
    UriTemplate.filledLabels?_pathExpression, ← UriTemplate.map_labelName_boundLabels]
  split_ifs
  · simp
  · rfl

def answerSymbols (type name : String) : List Symbol :=
  [.word "return", .blank, .word type, .sign ".", .word "from_dict", .sign "(",
    .word "_response_json", .sign "(", .word "operation", .sign "=", .text name, .sign ",", .blank,
    .word "response", .sign "=", .word "response", .sign ")", .sign ",", .blank,
    .word "infer_missing", .sign "=", .word "True", .sign ")"]

theorem line?_answer {type : String} (h : isSharedName type = true) (name : String) :
    line? ("return " ++ type ++ ".from_dict(_response_json(operation=" ++ Text.quoted name
      ++ ", response=response), infer_missing=True)") = some .pass := by
  generalize hline : "return " ++ type ++ ".from_dict(_response_json(operation=" ++ Text.quoted name
    ++ ", response=response), infer_missing=True)" = line
  have hspell : line.toList = spell (answerSymbols type name) := by
    rw [← hline]
    simp [answerSymbols, spell, Symbol.chars, Text.quoted]
  have hsound : (Symbol.word type).isSound = true := by
    refine isSound_of_isFreeName ?_
    rw [isSharedName, Bool.and_eq_true] at h
    exact h.1
  have hspelled : Spelled (answerSymbols type name) := by
    refine .of_all ?_ (by rfl)
    simp only [answerSymbols, List.all_cons, hsound]
    rfl
  have hread : isIdle ((answerSymbols type name).filter (· != .blank)) = true := by
    change (false || isSharedName type) = true
    rw [h]
    rfl
  rw [line?, hspell, symbols_spell hspelled, hread]
  rfl

theorem line?_send (o : Operation) (p : SendPlan) :
    line? ("response = await self._send(" ++ ", ".intercalate (sendArguments o p) ++ ")")
      = some (.send o.http.method o.http.code (argumentsOf o p)) := by
  rw [line?, step?_send]

theorem mapM_line? {line : String} {s : Step} (h : line? line = some s) :
    [line].mapM line? = some [s] := by
  simp [h]

theorem lines_input (o : Operation) :
    (inputLines o).mapM line? = some (if o.input.isSome then [.pass, .pass] else []) := by
  unfold inputLines
  cases o.input.isSome <;> rfl

theorem lines_result {o : Operation} (houtput : ∀ s ∈ o.output, isSharedName s.name = true) :
    (resultLines o).mapM line? = some (if o.output.isSome then [.pass] else []) := by
  unfold resultLines
  cases hout : o.output with
  | none => rfl
  | some output => exact mapM_line? (line?_answer (houtput output hout) o.name)

theorem lines_query (ms : List Member) :
    (if ms.isEmpty then [] else ["params = " ++ compact ms]).mapM line?
      = some (if ms.isEmpty then [] else [.params (ms.map entryOf)]) := by
  split_ifs with h
  · rfl
  · refine mapM_line? ?_
    rw [line?, step?_params (by simpa using h)]

theorem lines_headers (ms : List Member) :
    (if ms.isEmpty then []
      else ["headers = \x7bk: str(v) for k, v in " ++ compact ms ++ ".items()\x7d"]).mapM line?
      = some (if ms.isEmpty then [] else [.headers (ms.map entryOf)]) := by
  split_ifs with h
  · rfl
  · refine mapM_line? ?_
    rw [line?, step?_headers (by simpa using h)]

theorem lines_callBody {o : Operation} (houtput : ∀ s ∈ o.output, isSharedName s.name = true) :
    (callBody o).mapM line?
      = if UriTemplate.CanFill o.http.uri (sendPlan o).labels then some (stepsOf o (sendPlan o))
        else none := by
  have hpath := line?_path o.http.uri (sendPlan o).labels
  split_ifs with hfill
  · rw [if_pos hfill] at hpath
    have hfront := Outcome.mapM_append_eq_some (lines_input o) (mapM_line? hpath)
    have hquery := Outcome.mapM_append_eq_some hfront (lines_query (sendPlan o).query)
    have hheaders := Outcome.mapM_append_eq_some hquery (lines_headers (sendPlan o).headers)
    have hsend := Outcome.mapM_append_eq_some hheaders (mapM_line? (line?_send o (sendPlan o)))
    exact Outcome.mapM_append_eq_some hsend (lines_result houtput)
  · rw [if_neg hfill] at hpath
    refine Outcome.mapM_eq_none_of_mem ?_ hpath
    simp [callBody]

theorem run_callBody {types : List String} (htypes : ∀ t ∈ types, isImportable usedNames t = true)
    {o : Operation} (houtput : ∀ s ∈ o.output, isSharedName s.name = true) (names : List String) :
    run types names (callBody o)
      = if UriTemplate.CanFill o.http.uri (sendPlan o).labels
            ∧ (labelsOf o (sendPlan o)).Nodup ∧ ∀ l ∈ labelsOf o (sendPlan o), l ∈ names then
          some (sentOf o (sendPlan o) names)
        else none := by
  rw [run, if_pos (List.all_eq_true.mpr htypes), lines_callBody houtput]
  split_ifs with hfill hall hall
  · exact (runFrom_stepsOf ..).trans (if_pos hall.2)
  · exact (runFrom_stepsOf ..).trans (if_neg fun hlabels => hall ⟨hfill, hlabels⟩)
  · exact absurd hall.1 hfill
  · rfl

end Call

end SmithyGen
