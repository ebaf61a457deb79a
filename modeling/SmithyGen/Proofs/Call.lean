import SmithyGen.Emit.Client
import SmithyGen.Proofs.Outcome
import SmithyGen.Proofs.PathExpression

namespace SmithyGen

open Code

/-- Where a value travels in a request: in a label of the path, under a key of the query or of the
headers, as the whole body, or under a name in the object that is the body. -/
inductive Slot where
  | label (name : String)
  | query (key : String)
  | header (key : String)
  | document
  | field (name : String)
deriving DecidableEq, Repr

namespace Call

/-- The body of a request: one member, or what is left of the input. -/
inductive Body where
  | member (name : String)
  | rest
deriving DecidableEq, Repr

inductive Argument where
  | params
  | headers
  | body (b : Body)
deriving DecidableEq, Repr

/-- What a line of a call does. An entry of the query or the headers is a key and the member that is
taken out of the input for it. -/
inductive Step where
  | pass
  | path (labels : List String)
  | params (entries : List (String × String))
  | headers (entries : List (String × String))
  | send (method : String) (status : Int) (arguments : List Argument)
deriving DecidableEq, Repr

section Reading

def entries? : List Symbol → Option (List (String × String) × List Symbol)
  | .text key :: .sign ":" :: .word "payload" :: .sign "." :: .word "pop" :: .sign "("
      :: .text name :: .sign "," :: .word "None" :: .sign ")" :: .sign "," :: ss =>
    (entries? ss).map fun (es, ss) => ((key, name) :: es, ss)
  | .text key :: .sign ":" :: .word "payload" :: .sign "." :: .word "pop" :: .sign "("
      :: .text name :: .sign "," :: .word "None" :: .sign ")" :: .sign "\x7d" :: ss =>
    some ([(key, name)], ss)
  | _ => none

def compact? : List Symbol → Option (List (String × String) × List Symbol)
  | .word "_compact" :: .sign "(" :: .sign "\x7b" :: ss =>
    match entries? ss with
    | some (es, .sign ")" :: ss) => some (es, ss)
    | _ => none
  | _ => none

def params? (ss : List Symbol) : Option Step :=
  match compact? ss with
  | some (es, []) => some (.params es)
  | _ => none

def headers? : List Symbol → Option Step
  | .sign "\x7b" :: .word "k" :: .sign ":" :: .word "str" :: .sign "(" :: .word "v" :: .sign ")"
      :: .word "for" :: .word "k" :: .sign "," :: .word "v" :: .word "in" :: ss =>
    match compact? ss with
    | some (es, [.sign ".", .word "items", .sign "(", .sign ")", .sign "\x7d"]) =>
      some (.headers es)
    | _ => none
  | _ => none

def arguments? : List Symbol → Option (List Argument)
  | [.sign ")"] => some []
  | .sign "," :: .word "params" :: .sign "=" :: .word "params" :: ss =>
    (arguments? ss).map (.params :: ·)
  | .sign "," :: .word "headers" :: .sign "=" :: .word "headers" :: ss =>
    (arguments? ss).map (.headers :: ·)
  | .sign "," :: .word "json_body" :: .sign "=" :: .word "payload" :: .sign "." :: .word "get"
      :: .sign "(" :: .text name :: .sign ")" :: ss =>
    (arguments? ss).map (.body (.member name) :: ·)
  | .sign "," :: .word "json_body" :: .sign "=" :: .word "payload" :: .word "or" :: .word "None"
      :: ss => (arguments? ss).map (.body .rest :: ·)
  | _ => none

def send? : List Symbol → Option Step
  | .word "await" :: .word "self" :: .sign "." :: .word "_send" :: .sign "(" :: .text _ :: .sign ","
      :: .text method :: .sign "," :: .word "path" :: .sign "," :: .number status :: ss =>
    (arguments? ss).map (.send method status)
  | _ => none

def preparation? : List Symbol → Option Step
  | [.word "input_data", .sign ".", .word "validate", .sign "(", .sign ")"] => some .pass
  | [.word "payload", .sign "=", .word "input_data", .sign ".", .word "to_dict", .sign "(",
      .word "encode_json", .sign "=", .word "True", .sign ")"] => some .pass
  | _ => none

def step? : List Symbol → Option Step
  | .word "path" :: .sign "=" :: ss =>
    (UriTemplate.pathLabels? ss).map fun labels => .path (labels.map (·.1))
  | .word "params" :: .sign "=" :: ss => params? ss
  | .word "headers" :: .sign "=" :: ss => headers? ss
  | .word "response" :: .sign "=" :: ss => send? ss
  | .word "return" :: _ => some .pass
  | ss => preparation? ss

def steps? (lines : List String) : Option (List Step) :=
  lines.mapM fun line => step? (symbols line.toList)

end Reading

/-- What is sent. Members that were taken out of the input are not among what is left of it. -/
structure Request where
  method : String
  status : Int
  labels : List String
  query : List (String × String)
  headers : List (String × String)
  body : Option Body
  taken : List String

/-- What a call has made ready for its request. -/
structure Draft where
  labels : List String := []
  params : List (String × String) := []
  headers : List (String × String) := []

def Argument.body? : Argument → Option Body
  | .body b => some b
  | _ => none

def Draft.send (d : Draft) (method : String) (status : Int) (arguments : List Argument) :
    Request where
  method := method
  status := status
  labels := d.labels
  query := if .params ∈ arguments then d.params else []
  headers := if .headers ∈ arguments then d.headers else []
  body := arguments.findSome? Argument.body?
  taken := d.labels ++ d.params.map (·.2) ++ d.headers.map (·.2)

/-- The request that the steps of a call send, if they send one. -/
def requestFrom : Draft → List Step → Option Request
  | _, [] => none
  | d, .pass :: steps => requestFrom d steps
  | d, .path labels :: steps => requestFrom { d with labels } steps
  | d, .params params :: steps => requestFrom { d with params } steps
  | d, .headers headers :: steps => requestFrom { d with headers } steps
  | d, .send method status arguments :: _ => some (d.send method status arguments)

def request? (lines : List String) : Option Request := do requestFrom {} (← steps? lines)

open Emit.Client

section Lines

def popSymbols (m : Member) : List Symbol :=
  [.text m.wireName, .sign ":", .blank, .word "payload", .sign ".", .word "pop", .sign "(",
    .text m.name, .sign ",", .blank, .word "None", .sign ")"]

def compactStart : List Symbol := [.word "_compact", .sign "(", .sign "\x7b"]

def compactSymbols (ms : List Member) : List Symbol :=
  compactStart ++ comma.intercalate (ms.map popSymbols) ++ [Symbol.sign "\x7d"]
    ++ [Symbol.sign ")"]

theorem toList_compact (ms : List Member) :
    (compact ms).toList = spell (compactSymbols ms) := by
  have hentries : (", ".intercalate (ms.map popEntry)).toList
      = spell (comma.intercalate (ms.map popSymbols)) := by
    refine toList_intercalate_comma ?_
    rw [List.map_map, List.map_map]
    refine List.map_congr_left fun m _ => ?_
    simp [popEntry, popSymbols, spell, Symbol.chars, Text.quoted]
  simp only [compact, compactSymbols, String.toList_append, hentries, spell_append,
    List.append_assoc]
  rfl

theorem spelled_compactSymbols (ms : List Member) : Spelled (compactSymbols ms) := by
  have hentries : Spelled (comma.intercalate (ms.map popSymbols)) := by
    refine Spelled.intercalate_comma fun ss hss => ?_
    obtain ⟨m, -, rfl⟩ := List.mem_map.mp hss
    exact .of_all (by rfl) (by rfl)
  have hstart : Spelled compactStart := by decide
  have hbody := hstart.append_of_opener hentries (by decide) rfl
  exact (hbody.snoc_closer (by decide)).snoc_closer (by decide)

def entryOf (m : Member) : String × String := (m.wireName, m.name)

def solidPop (m : Member) : List Symbol :=
  [.text m.wireName, .sign ":", .word "payload", .sign ".", .word "pop", .sign "(",
    .text m.name, .sign ",", .word "None", .sign ")"]

theorem entries?_intercalate {ms : List Member} (h : ms ≠ []) (ss : List Symbol) :
    entries? ([Symbol.sign ","].intercalate (ms.map solidPop) ++ .sign "\x7d" :: ss)
      = some (ms.map entryOf, ss) := by
  induction ms with
  | nil => exact absurd rfl h
  | cons m ms ih =>
    cases ms with
    | nil => rfl
    | cons n ms =>
      have hn := ih (by simp)
      rw [List.map_cons] at hn ⊢
      have hstep : ∀ ss, entries? (solidPop m ++ ([Symbol.sign ","] ++ ss))
          = (entries? ss).map fun (es, ss) => (entryOf m :: es, ss) := fun _ => rfl
      rw [List.map_cons, List.intercalate_cons_cons, List.append_assoc, List.append_assoc, hstep,
        hn]
      rfl

theorem compact?_compactSymbols {ms : List Member} (h : ms ≠ []) (ss : List Symbol) :
    compact? ((compactSymbols ms).filter (· != .blank) ++ ss) = some (ms.map entryOf, ss) := by
  have hbody : (comma.intercalate (ms.map popSymbols)).filter (· != Symbol.blank)
      = [Symbol.sign ","].intercalate (ms.map solidPop) := by
    rw [filter_intercalate, List.map_map]
    rfl
  simp only [compactSymbols, List.filter_append, List.append_assoc, hbody]
  change (match entries? ([Symbol.sign ","].intercalate (ms.map solidPop)
      ++ .sign "\x7d" :: .sign ")" :: ss) with
    | some (es, .sign ")" :: ss) => some (es, ss)
    | _ => none) = _
  rw [entries?_intercalate h]
  rfl

def paramsStart : List Symbol := [.word "params", .blank, .sign "=", .blank]

def paramsSymbols (ms : List Member) : List Symbol := paramsStart ++ compactSymbols ms

theorem step?_params {ms : List Member} (h : ms ≠ []) :
    step? (symbols ("params = " ++ compact ms).toList)
      = some (.params (ms.map entryOf)) := by
  have hline : ("params = " ++ compact ms).toList = spell (paramsSymbols ms) := by
    rw [String.toList_append, toList_compact, paramsSymbols, spell_append]
    rfl
  have hstart : Spelled paramsStart := by decide
  have hspelled : Spelled (paramsSymbols ms) :=
    hstart.append_of_blank (spelled_compactSymbols ms) rfl
  have hread := compact?_compactSymbols h []
  rw [List.append_nil] at hread
  rw [hline, symbols_spell hspelled, paramsSymbols, List.filter_append]
  change params? ((compactSymbols ms).filter (· != .blank)) = _
  rw [params?, hread]

def headersStart : List Symbol :=
  [.word "headers", .blank, .sign "=", .blank, .sign "\x7b", .word "k", .sign ":", .blank,
    .word "str", .sign "(", .word "v", .sign ")", .blank, .word "for", .blank, .word "k",
    .sign ",", .blank, .word "v", .blank, .word "in", .blank]

def headersEnd : List Symbol :=
  [.sign ".", .word "items", .sign "(", .sign ")", .sign "\x7d"]

def headersSymbols (ms : List Member) : List Symbol :=
  headersStart ++ compactSymbols ms ++ headersEnd

theorem step?_headers {ms : List Member} (h : ms ≠ []) :
    step? (symbols ("headers = \x7bk: str(v) for k, v in " ++ compact ms
        ++ ".items()\x7d").toList) = some (.headers (ms.map entryOf)) := by
  have hline : ("headers = \x7bk: str(v) for k, v in " ++ compact ms
      ++ ".items()\x7d").toList = spell (headersSymbols ms) := by
    rw [String.toList_append, String.toList_append, toList_compact, headersSymbols, spell_append,
      spell_append]
    rfl
  have hspelled : Spelled (headersSymbols ms) := by
    have hstart : Spelled headersStart := by decide
    have hend : Spelled headersEnd := by decide
    refine (hstart.append_of_blank (spelled_compactSymbols ms) rfl).append hend ?_
    intro s hs t ht
    rw [compactSymbols, ← List.append_assoc, List.getLast?_append] at hs
    obtain rfl : Symbol.sign ")" = s := Option.some.inj hs
    obtain rfl : Symbol.sign "." = t := Option.some.inj ht
    decide
  have hread := compact?_compactSymbols h headersEnd
  rw [hline, symbols_spell hspelled, headersSymbols, List.filter_append, List.filter_append,
    List.append_assoc]
  change headers? (.sign "\x7b" :: .word "k" :: .sign ":" :: .word "str" :: .sign "("
    :: .word "v" :: .sign ")" :: .word "for" :: .word "k" :: .sign "," :: .word "v" :: .word "in"
    :: ((compactSymbols ms).filter (· != .blank) ++ headersEnd)) = _
  rw [headers?, hread]
  rfl

theorem step?_path (uri : String) (bound : List String) :
    step? (symbols ("path = " ++ UriTemplate.pathExpression uri bound).toList)
      = some (.path ((UriTemplate.params uri).filter bound.contains)) := by
  have hline : ("path = " ++ UriTemplate.pathExpression uri bound).toList
      = spell [.word "path", .blank, .sign "=", .blank, UriTemplate.pathSymbol uri bound] := by
    rw [String.toList_append, UriTemplate.toList_pathExpression]
    simp [spell, Symbol.chars]
  have hspelled :
      Spelled [.word "path", .blank, .sign "=", .blank, UriTemplate.pathSymbol uri bound] := by
    unfold UriTemplate.pathSymbol
    split_ifs <;> exact .of_all (by rfl) (by rfl)
  have hsymbols : [Symbol.word "path", .blank, .sign "=", .blank,
      UriTemplate.pathSymbol uri bound].filter (· != .blank)
        = [.word "path", .sign "=", UriTemplate.pathSymbol uri bound] := by
    unfold UriTemplate.pathSymbol
    split_ifs <;> rfl
  rw [hline, symbols_spell hspelled, hsymbols, step?, UriTemplate.pathLabels?_pathSymbol,
    ← UriTemplate.map_labelName_boundLabels, Option.map_some, List.map_map]
  rfl

def Argument.symbols : Argument → List Symbol
  | .params => [.word "params", .sign "=", .word "params"]
  | .headers => [.word "headers", .sign "=", .word "headers"]
  | .body (.member name) =>
    [.word "json_body", .sign "=", .word "payload", .sign ".", .word "get", .sign "(", .text name,
      .sign ")"]
  | .body .rest =>
    [.word "json_body", .sign "=", .word "payload", .blank, .word "or", .blank, .word "None"]

theorem Argument.spelled_symbols (a : Argument) : Spelled a.symbols := by
  cases a with
  | body b => cases b <;> exact .of_all (by rfl) (by rfl)
  | _ => decide

theorem arguments?_flatMap (as : List Argument) :
    arguments? ((as.flatMap fun a => .sign "," :: a.symbols.filter (· != .blank)) ++ [.sign ")"])
      = some as := by
  induction as with
  | nil => rfl
  | cons a as ih =>
    have hstep : ∀ ss, arguments? ((.sign "," :: a.symbols.filter (· != .blank)) ++ ss)
        = (arguments? ss).map (a :: ·) := by
      intro ss
      cases a with
      | body b => cases b <;> rfl
      | _ => rfl
    rw [List.flatMap_cons, List.append_assoc, hstep, ih]
    rfl

def bodyOf (o : Operation) (p : SendPlan) : Option Body :=
  match p.payload with
  | some m => some (.member m.name)
  | none => if o.input.isSome then some .rest else none

theorem isSome_bodyOf {o : Operation} (h : o.input.isSome = true) (p : SendPlan) :
    (bodyOf o p).isSome = true := by
  unfold bodyOf
  rw [h]
  cases p.payload <;> rfl

def argumentsOf (o : Operation) (p : SendPlan) : List Argument :=
  (if p.query.isEmpty then [] else [Argument.params])
    ++ (if p.headers.isEmpty then [] else [Argument.headers])
    ++ ((bodyOf o p).map Argument.body).toList

def fixedSymbols (o : Operation) : List (List Symbol) :=
  [[.text o.name], [.text o.http.method], [.word "path"], [.number o.http.code]]

theorem map_toList_sendArguments (o : Operation) (p : SendPlan) :
    (sendArguments o p).map String.toList
      = (fixedSymbols o ++ (argumentsOf o p).map Argument.symbols).map spell := by
  have hfixed : ([Text.quoted o.name, Text.quoted o.http.method, "path",
      toString o.http.code] : List String).map String.toList = (fixedSymbols o).map spell := by
    simp [fixedSymbols, spell, Symbol.chars, Text.quoted]
  have hbody : (bodyArguments o p).map String.toList
      = (((bodyOf o p).map Argument.body).toList.map Argument.symbols).map spell := by
    unfold bodyArguments bodyOf
    cases p.payload with
    | some m => simp [Argument.symbols, spell, Symbol.chars, Text.quoted]
    | none => cases o.input.isSome <;> rfl
  simp only [sendArguments, argumentsOf, List.map_append, hfixed, hbody,
    List.append_assoc]
  cases p.query.isEmpty <;> cases p.headers.isEmpty <;> rfl

def sendStart : List Symbol :=
  [.word "response", .blank, .sign "=", .blank, .word "await", .blank, .word "self", .sign ".",
    .word "_send", .sign "("]

def sendSymbols (o : Operation) (p : SendPlan) : List Symbol :=
  sendStart ++ comma.intercalate (fixedSymbols o ++ (argumentsOf o p).map Argument.symbols)
    ++ [Symbol.sign ")"]

theorem spelled_sendSymbols (o : Operation) (p : SendPlan) :
    Spelled (sendSymbols o p) := by
  have harguments : Spelled
      (comma.intercalate (fixedSymbols o ++ (argumentsOf o p).map Argument.symbols)) := by
    refine Spelled.intercalate_comma fun ss hss => ?_
    rcases List.mem_append.mp hss with hss | hss
    · simp only [fixedSymbols, List.mem_cons, List.not_mem_nil, or_false] at hss
      rcases hss with rfl | rfl | rfl | rfl
        <;> exact .of_all (by rfl) (by rfl)
    · obtain ⟨a, -, rfl⟩ := List.mem_map.mp hss
      exact a.spelled_symbols
  have hstart : Spelled sendStart := by decide
  have hcall := hstart.append_of_opener harguments (by decide) rfl
  exact hcall.snoc_closer (by decide)

theorem step?_send (o : Operation) (p : SendPlan) :
    step? (symbols ("response = await self._send("
        ++ ", ".intercalate (sendArguments o p) ++ ")").toList)
      = some (.send o.http.method o.http.code (argumentsOf o p)) := by
  have hline : ("response = await self._send("
      ++ ", ".intercalate (sendArguments o p) ++ ")").toList
        = spell (sendSymbols o p) := by
    rw [String.toList_append, String.toList_append,
      toList_intercalate_comma (map_toList_sendArguments o p), sendSymbols, spell_append,
      spell_append]
    rfl
  have hsolid : (comma.intercalate (fixedSymbols o
      ++ (argumentsOf o p).map Argument.symbols)).filter (· != Symbol.blank)
        = .text o.name :: .sign "," :: .text o.http.method :: .sign "," :: .word "path"
          :: .sign "," :: .number o.http.code
          :: (argumentsOf o p).flatMap fun a => .sign "," :: a.symbols.filter (· != .blank) := by
    rw [filter_intercalate, List.map_append, List.map_map]
    change [Symbol.sign ","].intercalate ([.text o.name] :: [.text o.http.method]
      :: [.word "path"] :: [.number o.http.code] :: _) = _
    rw [intercalate_cons]
    simp [List.flatMap_map]
  rw [hline, symbols_spell (spelled_sendSymbols o p), sendSymbols, List.filter_append,
    List.filter_append, hsolid]
  have harguments := arguments?_flatMap (argumentsOf o p)
  exact congrArg (Option.map (Step.send o.http.method o.http.code)) harguments

theorem step?_return (text : String) : step? (symbols ("return " ++ text).toList) = some .pass := by
  have hword : Spelled [.word "return"] := by decide
  have hsymbols : symbols ("return " ++ text).toList
      = .word "return" :: symbols (' ' :: text.toList) := by
    rw [String.toList_append]
    refine symbols_spell_append hword ?_
    intro s hs c hc
    obtain rfl : Symbol.word "return" = s := Option.some.inj hs
    obtain rfl : ' ' = c := Option.some.inj hc
    rfl
  rw [hsymbols]
  rfl

end Lines

/-- The steps of a call, by its plan. -/
def stepsOf (o : Operation) (p : SendPlan) : List Step :=
  (if o.input.isSome then [Step.pass, Step.pass] else [])
    ++ [Step.path ((UriTemplate.params o.http.uri).filter p.labels.contains)]
    ++ (if p.query.isEmpty then [] else [Step.params (p.query.map entryOf)])
    ++ (if p.headers.isEmpty then [] else [Step.headers (p.headers.map entryOf)])
    ++ [Step.send o.http.method o.http.code (argumentsOf o p)]
    ++ (if o.output.isSome then [Step.pass] else [])

/-- Every line of a call is read as the step it was written for. -/
theorem steps?_callBody (o : Operation) :
    steps? (callBody o) = some (stepsOf o (sendPlan o)) := by
  have hone : ∀ {line : String} {s : Step}, step? (symbols line.toList) = some s →
      steps? [line] = some [s] := by
    intro line s h
    simp [steps?, h]
  have hinput : steps? (inputLines o) = some (if o.input.isSome then [.pass, .pass] else []) := by
    unfold inputLines
    cases o.input.isSome <;> rfl
  have hpath := hone (step?_path o.http.uri (sendPlan o).labels)
  have hquery : steps? (if (sendPlan o).query.isEmpty then []
      else ["params = " ++ compact (sendPlan o).query])
        = some (if (sendPlan o).query.isEmpty then []
          else [.params ((sendPlan o).query.map entryOf)]) := by
    split_ifs with h
    · rfl
    · exact hone (step?_params (by simpa using h))
  have hheaders : steps? (if (sendPlan o).headers.isEmpty then []
      else ["headers = \x7bk: str(v) for k, v in " ++ compact (sendPlan o).headers
        ++ ".items()\x7d"]) = some (if (sendPlan o).headers.isEmpty then []
          else [.headers ((sendPlan o).headers.map entryOf)]) := by
    split_ifs with h
    · rfl
    · exact hone (step?_headers (by simpa using h))
  have hsend := hone (step?_send o (sendPlan o))
  have hresult : steps? (resultLines o) = some (if o.output.isSome then [.pass] else []) := by
    unfold resultLines
    cases o.output with
    | none => rfl
    | some output =>
      simp only [Option.elim_some, String.append_assoc]
      exact hone (step?_return _)
  unfold callBody stepsOf
  exact Outcome.mapM_append_eq_some (Outcome.mapM_append_eq_some (Outcome.mapM_append_eq_some
    (Outcome.mapM_append_eq_some (Outcome.mapM_append_eq_some hinput hpath) hquery) hheaders)
    hsend) hresult

def labelsOf (o : Operation) (p : SendPlan) : List String :=
  (UriTemplate.params o.http.uri).filter p.labels.contains

def requestOf (o : Operation) (p : SendPlan) : Request where
  method := o.http.method
  status := o.http.code
  labels := labelsOf o p
  query := p.query.map entryOf
  headers := p.headers.map entryOf
  body := bodyOf o p
  taken := labelsOf o p ++ p.query.map (·.name) ++ p.headers.map (·.name)

theorem params_mem_argumentsOf (o : Operation) (p : SendPlan) :
    .params ∈ argumentsOf o p ↔ p.query ≠ [] := by
  unfold argumentsOf
  cases p.query <;> cases p.headers <;> cases bodyOf o p <;> simp

theorem headers_mem_argumentsOf (o : Operation) (p : SendPlan) :
    .headers ∈ argumentsOf o p ↔ p.headers ≠ [] := by
  unfold argumentsOf
  cases p.query <;> cases p.headers <;> cases bodyOf o p <;> simp

theorem findSome?_argumentsOf (o : Operation) (p : SendPlan) :
    (argumentsOf o p).findSome? Argument.body? = bodyOf o p := by
  unfold argumentsOf
  cases p.query <;> cases p.headers <;> cases bodyOf o p <;> rfl

theorem requestFrom_stepsOf (o : Operation) (p : SendPlan) :
    requestFrom {} (stepsOf o p) = some (requestOf o p) := by
  have hdraft : requestFrom {} (stepsOf o p) = some (Draft.send
      { labels := labelsOf o p
        params := p.query.map entryOf
        headers := p.headers.map entryOf } o.http.method o.http.code (argumentsOf o p)) := by
    unfold stepsOf
    generalize argumentsOf o p = arguments
    cases o.input.isSome <;> cases p.query <;> cases p.headers <;> rfl
  have hif : ∀ {ms : List Member} {b : Prop} [Decidable b], (b ↔ ms ≠ []) →
      (if b then ms.map entryOf else []) = ms.map entryOf := by
    intro ms b _ hb
    split_ifs with h
    · rfl
    · rw [not_not.mp fun hne => h (hb.mpr hne)]
      rfl
  rw [hdraft, Draft.send, hif (params_mem_argumentsOf o p), hif (headers_mem_argumentsOf o p),
    findSome?_argumentsOf]
  simp [requestOf, entryOf, Function.comp_def]

/-- A call sends the request of its plan. -/
theorem request?_callBody (o : Operation) :
    request? (callBody o) = some (requestOf o (sendPlan o)) := by
  rw [request?, steps?_callBody]
  exact requestFrom_stepsOf o (sendPlan o)

/-- A member that is bound to a location and is no label of the URI. -/
def isBoundTo (location : Location) (labels : List String) (m : Member) : Bool :=
  !labels.contains m.name && m.binding == some location

/-- The plan of a call sorts the members by where they travel. -/
theorem foldl_add (labels : List String) (ms : List Member) (p : SendPlan) :
    ms.foldl (SendPlan.add labels) p
      = { labels := p.labels ++ (ms.filter (labels.contains ·.name)).map (·.name)
          query := p.query ++ ms.filter (isBoundTo .query labels)
          headers := p.headers ++ ms.filter (isBoundTo .header labels)
          payload := (ms.reverse.find? (isBoundTo .body labels)).or p.payload } := by
  induction ms generalizing p with
  | nil => simp
  | cons m ms ih =>
    rw [List.foldl_cons, ih]
    by_cases hlabel : m.name ∈ labels
    · simp [SendPlan.add, isBoundTo, hlabel]
    · cases hbinding : m.binding with
      | none => simp [SendPlan.add, isBoundTo, hlabel, hbinding]
      | some location => cases location <;> simp [SendPlan.add, isBoundTo, hlabel, hbinding]

theorem sendPlan_eq {o : Operation} {input : Shape} (h : o.input = some input) :
    sendPlan o
      = { labels := (input.members.filter (o.http.pathParams.contains ·.name)).map (·.name)
          query := input.members.filter (isBoundTo .query o.http.pathParams)
          headers := input.members.filter (isBoundTo .header o.http.pathParams)
          payload := input.members.reverse.find? (isBoundTo .body o.http.pathParams) } := by
  rw [sendPlan, h, Option.elim_some, foldl_add]
  simp

/-- A call takes nothing out of its input, and sends nothing of it as the body, but its members. -/
theorem mem_names_of_requestOf {o : Operation} {input : Shape} (h : o.input = some input)
    {name : String} (hname : name ∈ (requestOf o (sendPlan o)).taken
      ∨ (requestOf o (sendPlan o)).body = some (.member name)) :
    name ∈ input.members.map (·.name) := by
  have hmem : ∀ (p : Member → Bool), name ∈ (input.members.filter p).map (·.name) →
      name ∈ input.members.map (·.name) :=
    fun p hp => (List.filter_sublist.map _).subset hp
  rw [sendPlan_eq h] at hname
  rcases hname with htaken | hbody
  · rcases List.mem_append.mp htaken with htaken | hheader
    · rcases List.mem_append.mp htaken with hlabel | hquery
      · exact hmem _ (List.contains_iff_mem.mp (List.mem_filter.mp hlabel).2)
      · exact hmem _ hquery
    · exact hmem _ hheader
  · change bodyOf o _ = _ at hbody
    unfold bodyOf at hbody
    split at hbody
    next m hm =>
      obtain rfl : m.name = name := by simpa using hbody
      exact List.mem_map_of_mem (List.mem_reverse.mp (List.mem_of_find?_eq_some hm))
    next =>
      split_ifs at hbody
      cases hbody

end Call

end SmithyGen
