import Mathlib.Data.List.Chain
import SmithyGen.Emit.Server
import SmithyGen.Proofs.Call
import SmithyGen.Proofs.Naming

namespace SmithyGen.Handler

open Code

/-- What a line of a handler does. The input is put together in a map; it starts empty or as the
object that is the body, and takes single values. -/
inductive Step where
  | pass
  | clear
  | object
  | check (slot : Slot)
  | take (name : String) (slot : Slot)
  | call (method : String)
  | answer (status : Int)
deriving DecidableEq, Repr

section Reading

def collection? : String → Option (String → Slot)
  | "path_params" => some .label
  | "query_params" => some .query
  | "headers" => some .header
  | _ => none

def converters : List String := ["_to_int", "_to_float", "_to_bool"]

def value? : List Symbol → Option Slot
  | [.word "await", .word "_read_json", .sign "(", .word "request", .sign ")"] => some .document
  | [.word "request", .sign ".", .word collection, .sign "[", .text key, .sign "]"] =>
    (collection? collection).map (· key)
  | [.word converter, .sign "(", .word "request", .sign ".", .word collection, .sign "[", .text key,
      .sign "]", .sign ")"] =>
    if converters.contains converter then (collection? collection).map (· key) else none
  | _ => none

def data? : List Symbol → Option Step
  | [.sign ":", .word "dict", .sign "[", .word "str", .sign ",", .word "Any", .sign "]", .sign "=",
      .sign "\x7b", .sign "\x7d"] => some .clear
  | [.sign "=", .word "await", .word "_read_body", .sign "(", .word "request", .sign ")"] =>
    some .object
  | .sign "[" :: .text name :: .sign "]" :: .sign "=" :: ss => (value? ss).map (.take name)
  | _ => none

def check? : List Symbol → Option Step
  | [.text key, .word "in", .word "request", .sign ".", .word collection, .sign ":"] =>
    (collection? collection).map fun slot => .check (slot key)
  | _ => none

def call? : List Symbol → Option Step
  | .word "await" :: .word "self" :: .sign "." :: .word "implementation" :: .sign "."
      :: .word method :: .sign "(" :: _ => some (.call method)
  | _ => none

/-- The status of a response. An error is not answered with the status of the operation. -/
def answer? : List Symbol → Option Step
  | [.word "JSONResponse", .sign "(", .word "output", .sign ".", .word "to_dict", .sign "(",
      .word "encode_json", .sign "=", .word "True", .sign ")", .sign ",", .word "status_code",
      .sign "=", .number status, .sign ")"] => some (.answer status)
  | [.word "Response", .sign "(", .word "status_code", .sign "=", .number status, .sign ")"] =>
    some (.answer status)
  | .word "_error_response" :: _ => some .pass
  | _ => none

def idleWords : List String := ["try", "except", "input_data", "logger"]

def step? : List Symbol → Option Step
  | .word "data" :: ss => data? ss
  | .word "if" :: ss => check? ss
  | .word "return" :: ss => answer? ss
  | .word "output" :: .sign "=" :: ss => call? ss
  | .word "await" :: ss => call? (.word "await" :: ss)
  | .word s :: _ => if idleWords.contains s then some .pass else none
  | _ => none

def steps? (lines : List String) : Option (List Step) :=
  lines.mapM fun line => step? (symbols line.toList)

end Reading

/-- What a handler does with a request. -/
structure Handling where
  takes : List (String × Slot) := []
  isObject : Bool := false
  calls : List String := []
  answers : List Int := []

namespace Handling

def append (h h' : Handling) : Handling where
  takes := h.takes ++ h'.takes
  isObject := h.isObject || h'.isObject
  calls := h.calls ++ h'.calls
  answers := h.answers ++ h'.answers

/-- Whether a handler reads a member from a slot: one that no line takes from somewhere else is read
from the object that is the body. -/
def Reads (h : Handling) (name : String) : Slot → Prop
  | .field f => f = name ∧ h.isObject = true ∧ ∀ slot, (name, slot) ∉ h.takes
  | slot => (name, slot) ∈ h.takes

def ReadsBody (h : Handling) : Prop := h.isObject = true ∨ ∃ name, (name, .document) ∈ h.takes

end Handling

def Step.effect : Step → Handling
  | .object => { isObject := true }
  | .take name slot => { takes := [(name, slot)] }
  | .call method => { calls := [method] }
  | .answer status => { answers := [status] }
  | _ => {}

/-- What steps do, one after another. A check guards a value that is taken from the same slot. -/
def handlingOf? : List Step → Option Handling
  | [] => some {}
  | .check slot :: .take name slot' :: steps =>
    if slot = slot' then (handlingOf? steps).map (Step.take name slot').effect.append else none
  | .check _ :: _ => none
  | step :: steps => (handlingOf? steps).map step.effect.append

def handling? (lines : List String) : Option Handling := do handlingOf? (← steps? lines)

theorem Handling.append_assoc (h h' h'' : Handling) :
    (h.append h').append h'' = h.append (h'.append h'') := by
  simp [append, Bool.or_assoc]

/-- What two runs of steps do is put together, where no check is left open between them. -/
theorem handlingOf?_append {steps steps' : List Step} {h h' : Handling}
    (hs : handlingOf? steps = some h) (hs' : handlingOf? steps' = some h') :
    handlingOf? (steps ++ steps') = some (h.append h') := by
  induction steps using handlingOf?.induct generalizing h with
  | case1 =>
    obtain rfl : {} = h := by simpa [handlingOf?] using hs
    simpa [Handling.append] using hs'
  | case2 name slot steps ih =>
    obtain ⟨g, hg, rfl⟩ : ∃ g, handlingOf? steps = some g
        ∧ (Step.take name slot).effect.append g = h := by simpa [handlingOf?] using hs
    simp [handlingOf?, ih hg, Handling.append_assoc]
  | case3 slot name slot' steps hne => simp [handlingOf?, hne] at hs
  | case4 slot steps hother =>
    rw [handlingOf?] at hs
    · exact absurd hs (by simp)
    · exact hother
  | case5 step steps hguard hcheck ih =>
    have hstep : ∀ more, handlingOf? (step :: more)
        = (handlingOf? more).map step.effect.append := by
      intro more
      cases step with
      | check slot => exact absurd rfl (hcheck slot)
      | _ => rfl
    rw [hstep] at hs
    obtain ⟨g, hg, rfl⟩ := Option.map_eq_some_iff.mp hs
    rw [List.cons_append, hstep, ih hg, Handling.append_assoc]
    rfl

open Emit.Server

section Lines

def lookupSymbols (collection key : String) : (converter : Option String) → List Symbol
  | none => [.word "request", .sign ".", .word collection, .sign "[", .text key, .sign "]"]
  | some c => [.word c, .sign "(", .word "request", .sign ".", .word collection, .sign "[",
      .text key, .sign "]", .sign ")"]

def takeStart (name : String) : List Symbol :=
  [.word "data", .sign "[", .text name, .sign "]", .blank, .sign "=", .blank]

def takeSymbols (name : String) (converter : Option String) (collection key : String) :
    List Symbol :=
  takeStart name ++ lookupSymbols collection key converter

theorem toList_take (name : String) (converter : Option String) (collection key : String) :
    ("data[" ++ Text.quoted name ++ "] = "
      ++ coerced converter ("request." ++ collection ++ "[" ++ Text.quoted key ++ "]")).toList
        = spell (takeSymbols name converter collection key) := by
  cases converter
    <;> simp [takeSymbols, takeStart, lookupSymbols, coerced, spell, Symbol.chars, Text.quoted]

theorem spelled_takeSymbols (name : String) {converter : Option String}
    (hconverter : ∀ c ∈ converter, c ∈ converters) {collection : String}
    (hcollection : (Symbol.word collection).isSound = true) (key : String) :
    Spelled (takeSymbols name converter collection key) := by
  have hsound : ∀ c ∈ converters, (Symbol.word c).isSound = true := by decide
  cases converter with
  | none =>
    refine .of_all ?_ (by rfl)
    simp only [takeSymbols, takeStart, lookupSymbols, List.cons_append, List.nil_append,
      List.all_cons, hcollection]
    rfl
  | some c =>
    refine .of_all ?_ (by rfl)
    simp only [takeSymbols, takeStart, lookupSymbols, List.cons_append, List.nil_append,
      List.all_cons, hcollection, hsound c (hconverter c rfl)]
    rfl

theorem collection?_isSound {collection : String} {slot : String → Slot}
    (h : collection? collection = some slot) : (Symbol.word collection).isSound = true := by
  unfold collection? at h
  split at h
  · rfl
  · rfl
  · rfl
  · simp at h

theorem step?_take (name : String) {converter : Option String}
    (hconverter : ∀ c ∈ converter, c ∈ converters) {collection : String}
    {slot : String → Slot} (hslot : collection? collection = some slot) (key : String) :
    step? (symbols ("data[" ++ Text.quoted name ++ "] = "
      ++ coerced converter ("request." ++ collection ++ "[" ++ Text.quoted key ++ "]")).toList)
        = some (.take name (slot key)) := by
  have hvalue : value? ((lookupSymbols collection key converter).filter (· != .blank))
      = some (slot key) := by
    cases converter with
    | none =>
      change (collection? collection).map (· key) = _
      rw [hslot]
      rfl
    | some c =>
      have hc : c = "_to_int" ∨ c = "_to_float" ∨ c = "_to_bool" := by
        simpa [converters] using hconverter c rfl
      rcases hc with rfl | rfl | rfl
      all_goals
        change (collection? collection).map (· key) = _
        rw [hslot]
        rfl
  rw [toList_take, symbols_spell (spelled_takeSymbols name hconverter
    (collection?_isSound hslot) key), takeSymbols, List.filter_append]
  exact congrArg (Option.map (Step.take name)) hvalue

def checkSymbols (collection key : String) : List Symbol :=
  [.word "if", .blank, .text key, .blank, .word "in", .blank, .word "request", .sign ".",
    .word collection, .sign ":"]

theorem step?_check {collection : String} {slot : String → Slot}
    (hslot : collection? collection = some slot) (key : String) :
    step? (symbols ("if " ++ Text.quoted key ++ " in " ++ ("request." ++ collection)
      ++ ":").toList) = some (.check (slot key)) := by
  have hline : ("if " ++ Text.quoted key ++ " in " ++ ("request." ++ collection) ++ ":").toList
      = spell (checkSymbols collection key) := by
    simp [checkSymbols, spell, Symbol.chars, Text.quoted]
  have hspelled : Spelled (checkSymbols collection key) := by
    refine .of_all ?_ (by rfl)
    simp only [checkSymbols, List.all_cons, collection?_isSound hslot]
    rfl
  rw [hline, symbols_spell hspelled]
  change (collection? collection).map (fun slot => Step.check (slot key)) = _
  rw [hslot]
  rfl

theorem coercion?_mem_converters {kind : TargetKind} {c : String} (h : c ∈ coercion? kind) :
    c ∈ converters := by
  cases kind <;> simp [coercion?] at h <;> simp [converters, ← h]

theorem symbols_indented (line : String) : symbols ("    " ++ line).toList = symbols line.toList := by
  have hmargin : ("    " ++ line).toList = spell margin ++ line.toList := by
    rw [String.toList_append]
    rfl
  rw [hmargin, symbols_margin]

theorem step?_margin (line : String) :
    step? (symbols ("    " ++ line).toList) = step? (symbols line.toList) := by
  rw [symbols_indented]

theorem steps?_margin (lines : List String) :
    steps? (lines.map ("    " ++ ·)) = steps? lines := by
  simp only [steps?, List.mapM_map, Function.comp_def, step?_margin]

theorem steps?_optionalLines (m : Member) {collection : String} {slot : String → Slot}
    (hslot : collection? collection = some slot) (key : String) {converter : Option String}
    (hconverter : ∀ c ∈ converter, c ∈ converters) :
    steps? (optionalLines m ("request." ++ collection) key converter)
      = some [.check (slot key), .take m.name (slot key)] := by
  have hcheck := step?_check hslot key
  have htake := step?_take m.name hconverter hslot key
  have hline : ∀ s t : String, "    data[" ++ s ++ "] = " ++ t
      = "    " ++ ("data[" ++ s ++ "] = " ++ t) := by
    intro s t
    rw [← String.toList_inj]
    simp
  simp only [steps?, optionalLines, hline, List.mapM_cons, List.mapM_nil, step?_margin, hcheck,
    htake]
  rfl

theorem step?_idle {word : String} (hword : word ∈ idleWords) {c : Char}
    (hc : (Symbol.word word).endsBefore c = true) (rest : List Char) :
    step? (symbols (word.toList ++ c :: rest)) = some .pass := by
  have hsound : ∀ w ∈ idleWords, (Symbol.word w).isSound = true := by decide
  have hspelled : Spelled [.word word] :=
    ⟨by simpa using hsound word hword, List.isChain_singleton _⟩
  have hsymbols : symbols (word.toList ++ c :: rest) = .word word :: symbols (c :: rest) := by
    have happend : symbols (spell [.word word] ++ c :: rest)
        = [Symbol.word word].filter (· != .blank) ++ symbols (c :: rest) := by
      refine symbols_spell_append hspelled ?_
      intro s hs d hd
      obtain rfl : Symbol.word word = s := Option.some.inj hs
      obtain rfl : c = d := Option.some.inj hd
      exact hc
    simpa [spell, Symbol.chars] using happend
  rw [hsymbols]
  simp only [idleWords, List.mem_cons, List.not_mem_nil, or_false] at hword
  rcases hword with rfl | rfl | rfl | rfl <;> rfl

def callStart (method : String) : List Symbol :=
  [.word "await", .blank, .word "self", .sign ".", .word "implementation", .sign ".",
    .word method, .sign "("]

def callEnd : (hasInput : Bool) → List Symbol
  | true => [.word "input_data", .sign ")"]
  | false => [.sign ")"]

def callSymbols (method : String) (hasInput : Bool) : List Symbol :=
  callStart method ++ callEnd hasInput

def callLine (method : String) (hasInput : Bool) : String :=
  "await self.implementation." ++ method ++ "(" ++ (if hasInput then "input_data" else "") ++ ")"

theorem toList_callLine (method : String) (hasInput : Bool) :
    (callLine method hasInput).toList = spell (callSymbols method hasInput) := by
  unfold callLine
  simp only [String.toList_append, List.append_assoc]
  cases hasInput <;> rfl

theorem spelled_callSymbols {method : String} (h : (Symbol.word method).isSound = true)
    (hasInput : Bool) : Spelled (callSymbols method hasInput) := by
  cases hasInput
  all_goals
    refine .of_all ?_ (by rfl)
    simp only [callSymbols, callStart, List.cons_append, List.nil_append, List.all_cons, h]
    rfl

theorem step?_call {method : String} (h : (Symbol.word method).isSound = true)
    (hasInput : Bool) : step? (symbols (callLine method hasInput).toList)
      = some (.call method) := by
  rw [toList_callLine, symbols_spell (spelled_callSymbols h hasInput)]
  cases hasInput <;> rfl

def outputStart : List Symbol := [.word "output", .blank, .sign "=", .blank]

theorem step?_output {method : String} (h : (Symbol.word method).isSound = true)
    (hasInput : Bool) : step? (symbols ("output = " ++ callLine method hasInput).toList)
      = some (.call method) := by
  have hline : ("output = " ++ callLine method hasInput).toList
      = spell (outputStart ++ callSymbols method hasInput) := by
    rw [String.toList_append, toList_callLine, spell_append]
    rfl
  have hstart : Spelled outputStart := by decide
  have hspelled : Spelled (outputStart ++ callSymbols method hasInput) :=
    hstart.append_of_blank (spelled_callSymbols h hasInput) rfl
  rw [hline, symbols_spell hspelled]
  cases hasInput <;> rfl

def answerSymbols (status : Int) : (hasOutput : Bool) → List Symbol
  | true =>
    [.word "return", .blank, .word "JSONResponse", .sign "(", .word "output", .sign ".",
      .word "to_dict", .sign "(", .word "encode_json", .sign "=", .word "True", .sign ")",
      .sign ",", .blank, .word "status_code", .sign "=", .number status, .sign ")"]
  | false =>
    [.word "return", .blank, .word "Response", .sign "(", .word "status_code", .sign "=",
      .number status, .sign ")"]

theorem step?_answer (hasOutput : Bool) (status : Int) :
    step? (symbols (if hasOutput then
        "return JSONResponse(output.to_dict(encode_json=True), status_code=" ++ toString status
          ++ ")"
      else "return Response(status_code=" ++ toString status ++ ")").toList)
        = some (.answer status) := by
  have hline : (if hasOutput then
        "return JSONResponse(output.to_dict(encode_json=True), status_code=" ++ toString status
          ++ ")"
      else "return Response(status_code=" ++ toString status ++ ")").toList
        = spell (answerSymbols status hasOutput) := by
    cases hasOutput <;> simp [answerSymbols, spell, Symbol.chars]
  have hspelled : Spelled (answerSymbols status hasOutput) := by
    cases hasOutput <;> exact .of_all (by rfl) (by rfl)
  rw [hline, symbols_spell hspelled]
  cases hasOutput <;> rfl

end Lines

def memberSteps (o : Operation) (m : Member) : List Step :=
  match source? o m with
  | some .label => [.take m.name (.label m.name)]
  | some (.query key) => [.check (.query key), .take m.name (.query key)]
  | some (.header key) => [.check (.header key), .take m.name (.header key)]
  | none => []

theorem steps?_memberLines (shapes : List Shape) (o : Operation) (m : Member) :
    steps? (memberLines shapes o m) = some (memberSteps o m) := by
  have hconverter : ∀ c ∈ coercion? (resolve shapes (some m.target)).kind, c ∈ converters :=
    fun c hc => coercion?_mem_converters hc
  unfold memberLines memberSteps
  cases source? o m with
  | none => rfl
  | some source =>
    cases source with
    | label =>
      have htake := step?_take m.name hconverter (by rfl : collection? "path_params" = some .label)
        m.name
      have hcollection : "request." ++ "path_params" ++ "[" = "request.path_params[" := by decide
      rw [hcollection] at htake
      simp only [steps?, List.mapM_cons, List.mapM_nil, htake]
      rfl
    | query key => exact steps?_optionalLines m (by rfl : collection? "query_params" = _) key hconverter
    | header key => exact steps?_optionalLines m (by rfl : collection? "headers" = _) key hconverter

def bodySteps (input : Shape) : List Step :=
  match payload? input with
  | some m => [.clear, .take m.name .document]
  | none => [.object]

theorem step?_document (name : String) :
    step? (symbols ("data[" ++ Text.quoted name ++ "] = await _read_json(request)").toList)
      = some (.take name .document) := by
  have hline : ("data[" ++ Text.quoted name ++ "] = await _read_json(request)").toList
      = spell [.word "data", .sign "[", .text name, .sign "]", .blank, .sign "=", .blank,
        .word "await", .blank, .word "_read_json", .sign "(", .word "request", .sign ")"] := by
    simp [spell, Symbol.chars, Text.quoted]
  rw [hline, symbols_spell (.of_all (by rfl) (by rfl))]
  rfl

theorem steps?_bodyLines (input : Shape) : steps? (bodyLines input) = some (bodySteps input) := by
  unfold bodyLines bodySteps
  cases payload? input with
  | none => rfl
  | some m =>
    have hclear : step? (symbols "data: dict[str, Any] = \x7b\x7d".toList) = some .clear := by rfl
    simp only [steps?, List.mapM_cons, List.mapM_nil, hclear, step?_document]
    rfl

theorem steps?_decodeLines (shapes : List Shape) (o : Operation) (input : Shape) :
    steps? (decodeLines shapes o input)
      = some (bodySteps input ++ input.members.flatMap (memberSteps o)) :=
  Outcome.mapM_append_eq_some (steps?_bodyLines input)
    (Outcome.mapM_flatMap_eq_some (steps?_memberLines shapes o) input.members)

theorem step?_inputLine (type : String) :
    step? (symbols ("    input_data = " ++ type ++ ".from_dict(data, infer_missing=True)").toList)
      = some .pass := by
  have hline : "    input_data = " ++ type ++ ".from_dict(data, infer_missing=True)"
      = "    " ++ ("input_data = " ++ type ++ ".from_dict(data, infer_missing=True)") := by
    rw [← String.toList_inj]
    simp
  rw [hline, step?_margin, String.append_assoc, String.toList_append]
  exact step?_idle (by decide : "input_data" ∈ idleWords)
    (by decide : (Symbol.word "input_data").endsBefore ' ' = true)
    ("= ".toList ++ (type ++ ".from_dict(data, infer_missing=True)").toList)

theorem step?_logLine (name : String) :
    step? (symbols ("    logger.exception(\"Unhandled error in " ++ name ++ "\")").toList)
      = some .pass := by
  have hline : "    logger.exception(\"Unhandled error in " ++ name ++ "\")"
      = "    " ++ ("logger.exception(\"Unhandled error in " ++ (name ++ "\")")) := by
    rw [← String.toList_inj]
    simp
  rw [hline, step?_margin, String.toList_append]
  exact step?_idle (by decide : "logger" ∈ idleWords)
    (by decide : (Symbol.word "logger").endsBefore '.' = true)
    ("exception(\"Unhandled error in ".toList ++ (name ++ "\")").toList)

def inputSteps (o : Operation) : List Step :=
  o.input.elim [] fun input =>
    [Step.pass] ++ (bodySteps input ++ input.members.flatMap (memberSteps o))
      ++ [Step.pass, Step.pass, Step.pass]

theorem steps?_inputLines (shapes : List Shape) (o : Operation) :
    steps? (Emit.Server.inputLines shapes o) = some (inputSteps o) := by
  unfold Emit.Server.inputLines inputSteps
  cases o.input with
  | none => rfl
  | some input =>
    have hdecode : steps? ((decodeLines shapes o input).map ("    " ++ ·))
        = some (bodySteps input ++ input.members.flatMap (memberSteps o)) := by
      rw [steps?_margin, steps?_decodeLines]
    have hinput := step?_inputLine input.name
    have hexcept : step? (symbols "except (ValueError, KeyError, TypeError) as exc:".toList)
        = some .pass := by rfl
    have hrefuse : step? (symbols validationResponse.toList) = some .pass := by rfl
    have hend : steps? ["    input_data = " ++ input.name ++ ".from_dict(data, infer_missing=True)",
        "except (ValueError, KeyError, TypeError) as exc:", validationResponse]
          = some [.pass, .pass, .pass] := by
      simp only [steps?, List.mapM_cons, List.mapM_nil, hinput, hexcept, hrefuse]
      rfl
    have htry : steps? ["try:"] = some [.pass] := by rfl
    exact Outcome.mapM_append_eq_some (Outcome.mapM_append_eq_some htry hdecode) hend

def outcomeSteps (o : Operation) : List Step :=
  [.pass, .call (methodName o), .pass, .pass, .pass, .pass, .pass, .answer o.http.code]

/-- Every line of a handler is read as the step it was written for. -/
theorem steps?_handlerBody (shapes : List Shape) (o : Operation) :
    steps? (handlerBody shapes o) = some (inputSteps o ++ outcomeSteps o) := by
  have hsound : (Symbol.word (methodName o)).isSound = true := Naming.isSound_attributeName o.name
  have hcall : step? (symbols (if o.output.isSome then
      "    output = " ++ callLine (methodName o) o.input.isSome
        else "    " ++ callLine (methodName o) o.input.isSome).toList)
          = some (.call (methodName o)) := by
    split_ifs
    · have hline : "    output = " ++ callLine (methodName o) o.input.isSome
          = "    " ++ ("output = " ++ callLine (methodName o) o.input.isSome) := by
        rw [← String.append_assoc]
        rfl
      rw [hline, step?_margin, step?_output hsound]
    · rw [step?_margin, step?_call hsound]
  have hlog := step?_logLine o.name
  have hanswer := step?_answer o.output.isSome o.http.code
  have hlines : steps? ["try:",
      if o.output.isSome then "    output = " ++ callLine (methodName o) o.input.isSome
        else "    " ++ callLine (methodName o) o.input.isSome,
      "except ValueError as exc:", validationResponse, "except Exception:",
      "    logger.exception(\"Unhandled error in " ++ o.name ++ "\")",
      "    return _error_response(500, 'InternalServerError', \"Internal server error\")",
      if o.output.isSome then "return JSONResponse(output.to_dict(encode_json=True), status_code="
        ++ toString o.http.code ++ ")"
      else "return Response(status_code=" ++ toString o.http.code ++ ")"]
        = some (outcomeSteps o) := by
    have htry : step? (symbols "try:".toList) = some .pass := by rfl
    have hvalue : step? (symbols "except ValueError as exc:".toList) = some .pass := by rfl
    have hrefuse : step? (symbols validationResponse.toList) = some .pass := by rfl
    have hany : step? (symbols "except Exception:".toList) = some .pass := by rfl
    have hfail : step? (symbols "    return _error_response(500, 'InternalServerError', \"Internal server error\")".toList)
        = some .pass := by rfl
    simp only [steps?, List.mapM_cons, List.mapM_nil, htry, hcall, hvalue, hrefuse, hany, hlog,
      hfail, hanswer]
    rfl
  exact Outcome.mapM_append_eq_some (steps?_inputLines shapes o) hlines

/-- The slot that a handler takes a member from, unless that is the body. -/
def takesOf (o : Operation) (m : Member) : List (String × Slot) :=
  match source? o m with
  | some .label => [(m.name, .label m.name)]
  | some (.query key) => [(m.name, .query key)]
  | some (.header key) => [(m.name, .header key)]
  | none => []

theorem name_of_mem_takesOf {o : Operation} {m : Member} {take : String × Slot}
    (h : take ∈ takesOf o m) : take.1 = m.name := by
  unfold takesOf at h
  split at h <;> simp_all

def documentTakes (input : Shape) : List (String × Slot) :=
  (payload? input).toList.map fun m => (m.name, .document)

/-- What the handler of an operation does. -/
def handlingFor (o : Operation) : Handling where
  takes := o.input.elim [] fun input =>
    documentTakes input ++ input.members.flatMap (takesOf o)
  isObject := o.input.any fun input => (payload? input).isNone
  calls := [methodName o]
  answers := [o.http.code]

/-- A handler sets nothing in the input that it puts together but members of that. -/
theorem mem_names_of_handlingFor {o : Operation} {input : Shape} (h : o.input = some input)
    {take : String × Slot} (htake : take ∈ (handlingFor o).takes) :
    take.1 ∈ input.members.map (·.name) := by
  simp only [handlingFor, h, Option.elim_some] at htake
  rcases List.mem_append.mp htake with hdocument | hmember
  · obtain ⟨m, hm, rfl⟩ := List.mem_map.mp hdocument
    exact List.mem_map_of_mem (List.mem_of_find?_eq_some (Option.mem_toList.mp hm))
  · obtain ⟨m, hm, htake⟩ := List.mem_flatMap.mp hmember
    rw [name_of_mem_takesOf htake]
    exact List.mem_map_of_mem hm

theorem handlingOf?_memberSteps (o : Operation) (m : Member) :
    handlingOf? (memberSteps o m) = some { takes := takesOf o m } := by
  unfold memberSteps takesOf
  cases source? o m with
  | none => rfl
  | some source => cases source <;> simp [handlingOf?, Handling.append, Step.effect]

theorem handlingOf?_members (o : Operation) (ms : List Member) :
    handlingOf? (ms.flatMap (memberSteps o)) = some { takes := ms.flatMap (takesOf o) } := by
  induction ms with
  | nil => rfl
  | cons m ms ih => exact handlingOf?_append (handlingOf?_memberSteps o m) ih

theorem handlingOf?_bodySteps (input : Shape) :
    handlingOf? (bodySteps input)
      = some { takes := documentTakes input, isObject := (payload? input).isNone } := by
  unfold bodySteps documentTakes
  cases payload? input <;> rfl

theorem handlingOf?_inputSteps (o : Operation) :
    handlingOf? (inputSteps o)
      = some { handlingFor o with calls := [], answers := [] } := by
  unfold inputSteps handlingFor
  cases o.input with
  | none => rfl
  | some input =>
    have hdecode := handlingOf?_append (handlingOf?_bodySteps input)
      (handlingOf?_members o input.members)
    have hpass : handlingOf? [.pass] = some {} := by rfl
    have hend : handlingOf? [.pass, .pass, .pass] = some {} := by rfl
    have hall := handlingOf?_append (handlingOf?_append hpass hdecode) hend
    simpa [Handling.append] using hall

/-- A handler takes the members of its input from where they are looked for, calls the method of
its operation, and answers with the status of the operation. -/
theorem handling?_handlerBody (shapes : List Shape) (o : Operation) :
    handling? (handlerBody shapes o) = some (handlingFor o) := by
  have houtcome : handlingOf? (outcomeSteps o)
      = some { calls := [methodName o], answers := [o.http.code] } := by rfl
  have hall := handlingOf?_append (handlingOf?_inputSteps o) houtcome
  rw [handling?, steps?_handlerBody]
  simpa [Handling.append, handlingFor] using hall

end SmithyGen.Handler
