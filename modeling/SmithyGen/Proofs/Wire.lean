import SmithyGen.Proofs.Building
import SmithyGen.Proofs.Slots

namespace SmithyGen

open Code Emit.Client Emit.Server

/-- An entry of the table of routes. -/
structure Route where
  method : String
  uri : String
  handler : String
deriving DecidableEq, Repr

namespace Route

def read? (line : String) : Option Route :=
  match symbols line.toList with
  | [.sign "(", .text method, .sign ",", .text uri, .sign ",", .text handler, .sign ")",
      .sign ","] => some { method, uri, handler }
  | _ => none

def lineSymbols (r : Route) : List Symbol :=
  [.blank, .blank, .blank, .blank, .sign "(", .text r.method, .sign ",", .blank, .text r.uri,
    .sign ",", .blank, .text r.handler, .sign ")", .sign ","]

theorem read?_of_line {line : String} {r : Route} (h : line.toList = spell r.lineSymbols) :
    read? line = some r := by
  rw [read?, h, symbols_spell (.of_all (by rfl) (by rfl))]
  rfl

theorem read?_routeLine (o : Operation) :
    ∃ r, read? (routeLine o) = some r ∧ r.method = o.http.method
      ∧ r.uri = UriTemplate.route o.http.uri ∧ r.handler = methodName o := by
  unfold routeLine
  generalize methodName o = name
  refine ⟨⟨o.http.method, UriTemplate.route o.http.uri, name⟩, read?_of_line ?_, rfl, rfl, rfl⟩
  simp [lineSymbols, spell, Symbol.chars, Text.quoted]

end Route

namespace Build

theorem build_pathParams {policy : ReferencePolicy} {doc : Value} {model : Model}
    (hbuild : (Model.build policy doc).result = .ok model) {s : Service}
    (hs : model.service = some s) :
    ∀ o ∈ s.operations, o.http.pathParams = UriTemplate.params o.http.uri := by
  obtain ⟨raw, -, -, -, hservice⟩ := build_cases hbuild
  rw [hs] at hservice
  obtain ⟨refs, hoperations⟩ := service_cases hservice
  intro o ho
  obtain ⟨es, -, hoperation⟩ := operations_cases hoperations ho
  obtain ⟨-, -, -, _, hhttp⟩ := operation_cases hoperation
  exact (httpBinding_cases hhttp).1

end Build

/-- A call passes a body where it has an input, and so does a handler read one. -/
theorem isSome_body_iff (o : Operation) :
    (Call.requestOf o (sendPlan o)).body.isSome = true ↔ (Handler.handlingFor o).ReadsBody := by
  change (Call.bodyOf o (sendPlan o)).isSome = true ↔ _
  cases hinput : o.input with
  | none => simp [Call.bodyOf, Handler.Handling.ReadsBody, Handler.handlingFor, sendPlan, hinput]
  | some input =>
    refine iff_of_true (Call.isSome_bodyOf (by rw [hinput]; rfl) _) ?_
    unfold Handler.Handling.ReadsBody Handler.handlingFor
    rw [hinput]
    cases hpayload : payload? input with
    | none => exact Or.inl (by simp [hpayload])
    | some m => exact Or.inr ⟨m.name, by simp [Handler.documentTakes, hpayload]⟩

theorem request?_callMethod (o : Operation) :
    Call.request? (callMethod o).body = some (Call.requestOf o (sendPlan o)) := by
  rw [callMethod]
  exact Call.request?_callBody o

theorem handling?_handlerMethod (shapes : List Shape) (o : Operation) :
    Handler.handling? (handlerMethod shapes o).body = some (Handler.handlingFor o) := by
  rw [handlerMethod]
  exact Handler.handling?_handlerBody shapes o

/-- The methods of the client, of the handlers and of the contract have one name, and it is the name
of the method that the handler calls. -/
theorem method_names (shapes : List Shape) (o : Operation) :
    (callMethod o).name = methodName o ∧ (handlerMethod shapes o).name = methodName o
      ∧ (contractMethod o).name = methodName o
      ∧ (Handler.handlingFor o).calls = [methodName o] := by
  refine ⟨?_, ?_, ?_, ?_⟩
  · rw [callMethod, methodName]
  · rw [handlerMethod]
  · rw [contractMethod]
  · rw [Handler.handlingFor]

/-- The types that the client of a service imports. -/
def Service.typeNames (s : Service) : List String :=
  s.operations.flatMap fun o => (o.input.toList ++ o.output.toList).map (·.name)

/-- The types that the handlers of a service import. -/
def Service.inputNames (s : Service) : List String :=
  s.operations.flatMap fun o => o.input.toList.map (·.name)

namespace Operation

def memberNames (o : Operation) : List String :=
  o.input.elim [] fun input => input.members.map (·.name)

/-- The names in what a call writes for its input, if there can be one. -/
def writtenNames? (o : Operation) : Option (List String) :=
  o.input.elim (some []) Shape.writtenNames?

/-- The path of an operation can be filled in, and takes each member once. -/
def IsCallable (o : Operation) : Prop :=
  UriTemplate.CanFill o.http.uri o.memberNames
    ∧ ((UriTemplate.params o.http.uri).filter o.memberNames.contains).Nodup

instance (o : Operation) : Decidable o.IsCallable :=
  inferInstanceAs (Decidable (_ ∧ _))

/-- An operation of a service whose names are those that its code goes by. -/
structure IsPlain (s : Service) (o : Operation) : Prop where
  method : IsPlainName (methodName o)
  log : Handler.isLoggable o.name = true
  fields : ∀ input ∈ o.input, input.HasOwnFields
  types : ∀ t ∈ s.typeNames, isImportable Call.usedNames t = true
  inputs : ∀ t ∈ s.inputNames, isImportable Handler.usedNames t = true

variable {s : Service} {o : Operation}

theorem IsPlain.output (h : o.IsPlain s) (ho : o ∈ s.operations) :
    ∀ output ∈ o.output, isSharedName output.name = true := by
  intro output houtput
  refine isSharedName_of_isImportable (h.types output.name ?_)
  rw [Option.mem_def] at houtput
  exact List.mem_flatMap.mpr ⟨o, ho, by simp [houtput]⟩

theorem IsPlain.isReadable (h : o.IsPlain s) (ho : o ∈ s.operations) : Handler.IsReadable o := by
  refine ⟨h.method.isFree, fun input hinput => ?_, h.log⟩
  refine isSharedName_of_isImportable (h.inputs input.name ?_)
  rw [Option.mem_def] at hinput
  exact List.mem_flatMap.mpr ⟨o, ho, by simp [hinput]⟩

theorem IsPlain.mem_writtenNames (h : o.IsPlain s) :
    ∃ names, o.writtenNames? = some names ∧ ∀ name, name ∈ names ↔ name ∈ o.memberNames := by
  unfold writtenNames? memberNames
  cases hinput : o.input with
  | none => exact ⟨[], rfl, fun _ => Iff.rfl⟩
  | some input => exact (h.fields input hinput).mem_writtenNames

/-- The labels that a call fills in are those that name a member. -/
theorem mem_sendPlan_labels_iff {l : String} (hl : l ∈ o.http.pathParams) :
    l ∈ (sendPlan o).labels ↔ l ∈ o.memberNames := by
  unfold memberNames
  cases hinput : o.input with
  | none => simp [sendPlan, hinput]
  | some input =>
    rw [Call.sendPlan_eq hinput, Option.elim_some, List.mem_map, List.mem_map]
    constructor
    · rintro ⟨m, hm, rfl⟩
      exact ⟨m, List.mem_of_mem_filter hm, rfl⟩
    · rintro ⟨m, hm, rfl⟩
      exact ⟨m, List.mem_filter.mpr ⟨hm, List.contains_iff_mem.mpr hl⟩, rfl⟩

theorem boundLabels_sendPlan (h : o.http.pathParams = UriTemplate.params o.http.uri) :
    UriTemplate.boundLabels o.http.uri (sendPlan o).labels
      = UriTemplate.boundLabels o.http.uri o.memberNames := by
  refine List.filter_congr fun l hl => ?_
  have hparam : UriTemplate.labelName l ∈ o.http.pathParams := by
    rw [h]
    exact List.mem_map_of_mem hl
  rw [Bool.eq_iff_iff, List.contains_iff_mem, List.contains_iff_mem,
    mem_sendPlan_labels_iff hparam]

theorem labelsOf_sendPlan (h : o.http.pathParams = UriTemplate.params o.http.uri) :
    Call.labelsOf o (sendPlan o)
      = (UriTemplate.params o.http.uri).filter o.memberNames.contains := by
  rw [Call.labelsOf, ← UriTemplate.map_labelName_boundLabels, boundLabels_sendPlan h,
    UriTemplate.map_labelName_boundLabels]

end Operation

/-- What the client of a service sends for an operation, if it can. -/
def Service.sent? (s : Service) (o : Operation) : Option Call.Sent := do
  Call.run s.typeNames (← o.writtenNames?) (callMethod o).body

theorem sent?_eq {s : Service} {o : Operation} (ho : o ∈ s.operations)
    (hparams : o.http.pathParams = UriTemplate.params o.http.uri) (h : o.IsPlain s) :
    ∃ names, (∀ name, name ∈ names ↔ name ∈ o.memberNames) ∧ s.sent? o
      = if o.IsCallable then some (Call.sentOf o (sendPlan o) names) else none := by
  obtain ⟨names, hnames, hmem⟩ := h.mem_writtenNames
  have hlabels : ∀ l ∈ Call.labelsOf o (sendPlan o), l ∈ names := by
    intro l hl
    rw [Operation.labelsOf_sendPlan hparams, List.mem_filter, List.contains_iff_mem] at hl
    exact (hmem l).mpr hl.2
  have hcallable : (UriTemplate.CanFill o.http.uri (sendPlan o).labels
      ∧ (Call.labelsOf o (sendPlan o)).Nodup ∧ ∀ l ∈ Call.labelsOf o (sendPlan o), l ∈ names)
        ↔ o.IsCallable := by
    rw [and_iff_left hlabels, UriTemplate.CanFill, Operation.boundLabels_sendPlan hparams,
      Operation.labelsOf_sendPlan hparams]
    rfl
  refine ⟨names, hmem, ?_⟩
  rw [Service.sent?, hnames, callMethod, Option.bind_eq_bind, Option.bind_some,
    Call.run_callBody h.types (h.output ho), if_congr hcallable rfl rfl]

/-- The client and the server of a service agree on the wire. A call sends each member in the slot
where the handler looks for it, unless a later member has the same slot, and both sides use one
method, one status, one name, and a body or none. A call sends something where its path can be
filled in. -/
theorem wire_agrees {policy : Build.ReferencePolicy} {doc : Value} {model : Model}
    (hbuild : (Model.build policy doc).result = .ok model) {s : Service}
    (hs : model.service = some s) {o : Operation} (ho : o ∈ s.operations) (hplain : o.IsPlain s) :
    ∃ handling route,
      Handler.run s.inputNames (handlerMethod model.shapes o).body = some handling
      ∧ Route.read? (routeLine o) = some route
      ∧ boundName? (clientName s) (callMethod o).name = some route.handler
      ∧ boundName? (handlersName s) (handlerMethod model.shapes o).name = some route.handler
      ∧ boundName? (contractName s) (contractMethod o).name = some route.handler
      ∧ handling.calls.map (boundName? (handlersName s)) = [some route.handler]
      ∧ ((∃ sent, s.sent? o = some sent) ↔ o.IsCallable)
      ∧ ∀ sent, s.sent? o = some sent →
        sent.method = route.method
        ∧ handling.answers = [sent.status]
        ∧ (sent.body.isSome = true ↔ handling.ReadsBody)
        ∧ ∀ input, o.input = some input → (input.members.map (·.name)).Nodup →
          (input.members.filter (·.binding == some .body)).length ≤ 1 →
          (∀ m ∈ input.members, m.binding = some .body → m.name ∉ o.http.pathParams) →
          ∀ m ∈ input.members, ∀ slot,
            (sent.Has m.name slot ↔ o.carrier? input slot = some m)
            ∧ (handling.Reads m.name slot ↔ o.slot? input m = some slot) := by
  have hparams := Build.build_pathParams hbuild hs o ho
  obtain ⟨hcall, hhandler, hcontract, hcalls⟩ := method_names model.shapes o
  obtain ⟨route, hroute, hmethod, -, hname⟩ := Route.read?_routeLine o
  obtain ⟨names, hmem, hsent⟩ := sent?_eq ho hparams hplain
  have hhandling : Handler.run s.inputNames (handlerMethod model.shapes o).body
      = some (Handler.handlingFor o) := by
    rw [handlerMethod]
    exact Handler.run_handlerBody hplain.inputs model.shapes (hplain.isReadable ho)
  refine ⟨_, route, hhandling, hroute, ?_, ?_, ?_, ?_, ?_, ?_⟩
  · rw [hcall, hname, hplain.method.boundName?]
  · rw [hhandler, hname, hplain.method.boundName?]
  · rw [hcontract, hname, hplain.method.boundName?]
  · rw [hcalls, hname, List.map_singleton, hplain.method.boundName?]
  · rw [hsent]
    split_ifs with hcallable <;> simp [hcallable]
  · intro sent hsome
    rw [hsent] at hsome
    split_ifs at hsome
    obtain rfl := Option.some.inj hsome
    refine ⟨hmethod.symm, rfl, isSome_body_iff o, ?_⟩
    intro input hinput hnames hpayloads hfree m hm slot
    have h : o.HasPlainInput input := ⟨hinput, hparams, hnames, hpayloads, hfree⟩
    have hwritten : ∀ n ∈ input.members, n.name ∈ names := by
      intro n hn
      rw [hmem, Operation.memberNames, hinput]
      exact List.mem_map_of_mem hn
    exact ⟨h.has_iff hwritten hm slot, h.reads_iff hm slot⟩

def postDocument (uri : String) : Value :=
  .map [("shapes", .map [
    ("blog#UpdatePostInput", .map [
      ("type", .str "structure"),
      ("members", .map [
        ("id", .map [("target", .str "smithy.api#String"),
          ("traits", .map [(Prelude.httpLabelTrait, .map [])])]),
        ("notify", .map [("target", .str "smithy.api#Boolean"),
          ("traits", .map [(Prelude.httpQueryTrait, .str "send-mail")])]),
        ("version", .map [("target", .str "smithy.api#String"),
          ("traits", .map [(Prelude.httpHeaderTrait, .str "If-Match")])]),
        ("title", .map [("target", .str "smithy.api#String")])])]),
    ("blog#UpdatePost", .map [
      ("type", .str "operation"),
      ("input", .str "blog#UpdatePostInput"),
      ("traits", .map [(Prelude.httpTrait, .map [("method", .str "PUT"), ("uri", .str uri),
        ("code", .int 204)])])]),
    ("blog#Blog", .map [
      ("type", .str "service"),
      ("operations", .list [.str "blog#UpdatePost"])])])]

def updatePostInput : Shape :=
  { id := "blog#UpdatePostInput", name := "UpdatePostInput", type := .struct
    members := [
      { name := "id", target := "smithy.api#String", binding := some .path
        traits := [(Prelude.httpLabelTrait, .map [])] },
      { name := "notify", target := "smithy.api#Boolean", binding := some .query
        traits := [(Prelude.httpQueryTrait, .str "send-mail")] },
      { name := "version", target := "smithy.api#String", binding := some .header
        traits := [(Prelude.httpHeaderTrait, .str "If-Match")] },
      { name := "title", target := "smithy.api#String" }] }

theorem build_postDocument :
    ∀ uri ∈ ["/posts/\x7bid\x7d", "/a\"b/\x7bid\x7d"],
      ∃ model s o, (Model.build .lenient (postDocument uri)).result = .ok model
        ∧ model.service = some s ∧ o ∈ s.operations ∧ o.input = some updatePostInput
        ∧ o.http.uri = uri ∧ o.http.pathParams = ["id"] ∧ o.IsPlain s := by
  have hplain : ∀ {s : Service} {o : Operation}, o.name = "UpdatePost" →
      o.input = some updatePostInput → s.typeNames = ["UpdatePostInput"] →
      s.inputNames = ["UpdatePostInput"] → o.IsPlain s := by
    intro s o hname hinput htypes hinputs
    refine ⟨?_, ?_, ?_, ?_, ?_⟩
    · rw [methodName, hname]
      decide +kernel
    · rw [hname]
      decide +kernel
    · rw [hinput]
      intro input hinput
      obtain rfl := Option.some.inj hinput
      exact ⟨by decide +kernel, by decide +kernel⟩
    · rw [htypes]
      decide +kernel
    · rw [hinputs]
      decide +kernel
  intro uri huri
  simp only [List.mem_cons, List.not_mem_nil, or_false] at huri
  rcases huri with rfl | rfl
  · exact ⟨_, _, _, rfl, rfl, List.mem_singleton.mpr rfl, rfl, rfl, rfl, hplain rfl rfl rfl rfl⟩
  · exact ⟨_, _, _, rfl, rfl, List.mem_singleton.mpr rfl, rfl, rfl, rfl, hplain rfl rfl rfl rfl⟩

theorem hasPlainInput_updatePost {o : Operation} (hinput : o.input = some updatePostInput)
    (hparams : o.http.pathParams = UriTemplate.params o.http.uri) :
    o.HasPlainInput updatePostInput := by
  have hnone : ∀ m ∈ updatePostInput.members, m.binding ≠ some .body := by decide
  exact ⟨hinput, hparams, by decide, by decide, fun m hm hbody => absurd hbody (hnone m hm)⟩

theorem memberNames_updatePost {o : Operation} (hinput : o.input = some updatePostInput) :
    o.memberNames = ["id", "notify", "version", "title"] := by
  rw [Operation.memberNames, hinput]
  rfl

theorem wire_agrees_updatePost :
    ∃ model s o handling sent,
      (Model.build .lenient (postDocument "/posts/\x7bid\x7d")).result = .ok model
      ∧ model.service = some s ∧ o ∈ s.operations ∧ o.input = some updatePostInput ∧ o.IsPlain s
      ∧ Handler.run s.inputNames (handlerMethod model.shapes o).body = some handling
      ∧ s.sent? o = some sent
      ∧ ∀ m ∈ updatePostInput.members, ∀ slot,
        sent.Has m.name slot ↔ handling.Reads m.name slot := by
  obtain ⟨model, s, o, hbuild, hs, ho, hinput, huri, hpath, hplain⟩ :=
    build_postDocument "/posts/\x7bid\x7d" (by decide)
  have h := hasPlainInput_updatePost hinput (Build.build_pathParams hbuild hs o ho)
  obtain ⟨handling, route, hhandling, -, -, -, -, -, hcallable, hagrees⟩ :=
    wire_agrees hbuild hs ho hplain
  have hcan : o.IsCallable := by
    rw [Operation.IsCallable, huri, memberNames_updatePost hinput]
    decide +kernel
  obtain ⟨sent, hsent⟩ := hcallable.mpr hcan
  refine ⟨model, s, o, handling, sent, hbuild, hs, ho, hinput, hplain, hhandling, hsent, ?_⟩
  intro m hm slot
  obtain ⟨-, -, -, hslots⟩ := hagrees sent hsent
  obtain ⟨hhas, hreads⟩ := hslots _ hinput h.names h.payloads h.free m hm slot
  have hown : (updatePostInput.members.map (o.slot? updatePostInput)).Nodup := by
    have hall : updatePostInput.members.map (o.slot? updatePostInput)
        = [some (.label "id"), some (.query "send-mail"), some (.header "If-Match"),
          some (.field "title")] := by
      simp only [updatePostInput, List.map_cons, List.map_nil, Operation.slot?, hpath]
      rfl
    rw [hall]
    decide
  rw [hhas, hreads, Operation.carrier?_eq_some_iff hm]
  intro n hn hnslot hmslot
  exact List.inj_on_of_nodup_map hown hn hm (hnslot.trans hmslot.symm)

/-- A double quote in the path leaves no other to be written around the name of the label. The
handler looks for the label, and the text of the call is not one that can be read. -/
theorem unsent_updatePost :
    ∃ model s o handling,
      (Model.build .lenient (postDocument "/a\"b/\x7bid\x7d")).result = .ok model
      ∧ model.service = some s ∧ o ∈ s.operations ∧ o.HasPlainInput updatePostInput
      ∧ Handler.run s.inputNames (handlerMethod model.shapes o).body = some handling
      ∧ handling.Reads "id" (.label "id") ∧ s.sent? o = none := by
  obtain ⟨model, s, o, hbuild, hs, ho, hinput, huri, hpath, hplain⟩ :=
    build_postDocument "/a\"b/\x7bid\x7d" (by decide)
  have hparams := Build.build_pathParams hbuild hs o ho
  have h := hasPlainInput_updatePost hinput hparams
  have hcannot : ¬ o.IsCallable := by
    rw [Operation.IsCallable, huri, memberNames_updatePost hinput]
    decide +kernel
  obtain ⟨_, -, hsent⟩ := sent?_eq ho hparams hplain
  have hread : o.slot? updatePostInput updatePostInput.members[0] = some (.label "id") := by
    rw [Operation.slot?_eq_label_iff, hpath]
    decide
  have hhandling := Handler.run_handlerBody hplain.inputs model.shapes (hplain.isReadable ho)
  refine ⟨model, s, o, Handler.handlingFor o, hbuild, hs, ho, h, ?_, ?_, ?_⟩
  · rw [handlerMethod]
    exact hhandling
  · exact (h.reads_iff (List.getElem_mem _) _).mpr hread
  · rw [hsent, if_neg hcannot]

end SmithyGen
