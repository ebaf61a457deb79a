import SmithyGen.Proofs.BoundName
import SmithyGen.Proofs.Handler
import SmithyGen.Proofs.LiteralToken

namespace SmithyGen.Handler

open Code Emit.Server

section Reading

def inputType? : List Symbol → Option String
  | [.word "input_data", .sign "=", .word type, .sign ".", .word "from_dict", .sign "(",
      .word "data", .sign ",", .word "infer_missing", .sign "=", .word "True", .sign ")"] =>
    some type
  | _ => none

def logStart : String := "    logger.exception("

def isLog (line : String) : Bool :=
  match (logStart.toList.isPrefixOf? line.toList).bind (literal? {}) with
  | some (.text false [], [')']) => true
  | _ => false

def idleLines : List String :=
  ["try:", "except (ValueError, KeyError, TypeError) as exc:", validationResponse,
   "except ValueError as exc:", "except Exception:",
   "    return _error_response(500, 'InternalServerError', \"Internal server error\")"]

def isIdle (line : String) : Bool :=
  idleLines.contains line || isLog line || (inputType? (symbols line.toList)).any isSharedName

def isCall : List Symbol → Bool
  | [.word "await", .word "self", .sign ".", .word "implementation", .sign ".", .word method,
      .sign "(", .sign ")"]
  | [.word "await", .word "self", .sign ".", .word "implementation", .sign ".", .word method,
      .sign "(", .word "input_data", .sign ")"] => isFreeName method
  | .word "output" :: .sign "=" :: ss => isCall ss
  | _ => false

/-- The step of a line that can be run. -/
def line? (line : String) : Option Step :=
  match step? (symbols line.toList) with
  | some .pass => if isIdle line then some .pass else none
  | some (.call method) => if isCall (symbols line.toList) then some (.call method) else none
  | step => step

/-- Names that handlers and what they call use, besides those of types. -/
def usedNames : List String :=
  ["self", "request", "data", "input_data", "output", "exc", "str", "int", "float", "dict",
   "isinstance", "json", "logging", "logger", "ValueError", "KeyError", "TypeError", "Exception",
   "Request", "Response", "JSONResponse", "_to_int", "_to_float", "_to_bool", "_read_json",
   "_read_body", "_error_response"]

/-- What the lines of a handler do, in a module that names some types. -/
def run (types : List String) (lines : List String) : Option Handling :=
  if types.all (isImportable usedNames) then (lines.mapM line?).bind handlingOf? else none

end Reading

theorem line?_eq {line : String} {step : Step} (h : step? (symbols line.toList) = some step)
    (hpass : step = .pass → isIdle line = true)
    (hcall : ∀ m, step = .call m → isCall (symbols line.toList) = true) :
    line? line = step? (symbols line.toList) := by
  rw [line?, h]
  cases step with
  | pass => exact if_pos (hpass rfl)
  | call m => exact if_pos (hcall m rfl)
  | _ => rfl

theorem step?_of_line? {line : String} {step : Step} (h : line? line = some step) :
    step? (symbols line.toList) = some step := by
  unfold line? at h
  split at h
  next hpass =>
    split_ifs at h
    rwa [← Option.some.inj h]
  next m hcall =>
    split_ifs at h
    rwa [← Option.some.inj h]
  next => exact h

def logLine (name : String) : String :=
  "    logger.exception(\"Unhandled error in " ++ name ++ "\")"

/-- A name that can stand in the literal that is logged. -/
def isLoggable (name : String) : Bool := isLog (logLine name)

theorem isIdle_inputLine {type : String} (h : isSharedName type = true) :
    isIdle ("    input_data = " ++ type ++ ".from_dict(data, infer_missing=True)") = true := by
  generalize hline : "    input_data = " ++ type ++ ".from_dict(data, infer_missing=True)" = line
  have hsound : (Symbol.word type).isSound = true := by
    refine isSound_of_isFreeName ?_
    rw [isSharedName, Bool.and_eq_true] at h
    exact h.1
  have hspell : line.toList = spell margin ++ spell
      [.word "input_data", .blank, .sign "=", .blank, .word type, .sign ".", .word "from_dict",
        .sign "(", .word "data", .sign ",", .blank, .word "infer_missing", .sign "=",
        .word "True", .sign ")"] := by
    rw [← hline]
    simp [spell, Symbol.chars, margin]
  have hspelled : Spelled
      [.word "input_data", .blank, .sign "=", .blank, .word type, .sign ".", .word "from_dict",
        .sign "(", .word "data", .sign ",", .blank, .word "infer_missing", .sign "=",
        .word "True", .sign ")"] := by
    refine .of_all ?_ (by rfl)
    simp only [List.all_cons, hsound]
    rfl
  have htype : inputType? (symbols line.toList) = some type := by
    rw [hspell, symbols_margin, symbols_spell hspelled]
    rfl
  rw [isIdle, htype, Option.any_some, h, Bool.or_true]

theorem isCall_callLine {method : String} (h : isFreeName method = true) (hasInput : Bool) :
    isCall (symbols (callLine method hasInput).toList) = true := by
  rw [toList_callLine, symbols_spell (spelled_callSymbols (isSound_of_isFreeName h) hasInput)]
  cases hasInput <;> exact h

theorem isCall_output {method : String} (h : isFreeName method = true) (hasInput : Bool) :
    isCall (symbols ("output = " ++ callLine method hasInput).toList) = true := by
  have hline : ("output = " ++ callLine method hasInput).toList
      = spell (outputStart ++ callSymbols method hasInput) := by
    rw [String.toList_append, toList_callLine, spell_append]
    rfl
  have hstart : Spelled outputStart := by decide
  have hspelled : Spelled (outputStart ++ callSymbols method hasInput) :=
    hstart.append_of_blank (spelled_callSymbols (isSound_of_isFreeName h) hasInput) rfl
  rw [hline, symbols_spell hspelled]
  cases hasInput <;> exact h

/-- What the lines that decode a request do is neither nothing nor a call. -/
def Step.Decodes : Step → Prop
  | .clear | .object | .check _ | .take _ _ => True
  | _ => False

theorem decodes_memberSteps {o : Operation} {m : Member} {step : Step}
    (h : step ∈ memberSteps o m) : step.Decodes := by
  unfold memberSteps at h
  split at h <;> simp only [List.mem_cons, List.not_mem_nil, or_false] at h
  · subst h
    trivial
  · rcases h with rfl | rfl <;> trivial
  · rcases h with rfl | rfl <;> trivial

theorem decodes_bodySteps {input : Shape} {step : Step} (h : step ∈ bodySteps input) :
    step.Decodes := by
  unfold bodySteps at h
  split at h <;> simp only [List.mem_cons, List.not_mem_nil, or_false] at h
  · rcases h with rfl | rfl <;> trivial
  · subst h
    trivial

theorem line?_eq_of_decodes {line : String} {step : Step}
    (h : step? (symbols line.toList) = some step) (hdecodes : step.Decodes) :
    line? line = step? (symbols line.toList) := by
  refine line?_eq h ?_ ?_
  · rintro rfl
    exact hdecodes.elim
  · rintro m rfl
    exact hdecodes.elim

/-- A handler whose names are plain. -/
structure IsReadable (o : Operation) : Prop where
  method : isFreeName (methodName o) = true
  input : ∀ s ∈ o.input, isSharedName s.name = true
  log : isLoggable o.name = true

theorem line?_decodeLines {shapes : List Shape} {o : Operation} {input : Shape} {line : String}
    (h : line ∈ decodeLines shapes o input) :
    line? ("    " ++ line) = step? (symbols ("    " ++ line).toList) := by
  obtain ⟨step, hstep, hread⟩ :=
    Outcome.exists_image_of_mapM_eq_some (steps?_decodeLines shapes o input) h
  rw [← step?_margin] at hread
  refine line?_eq_of_decodes hread ?_
  rcases List.mem_append.mp hstep with hbody | hmember
  · exact decodes_bodySteps hbody
  · obtain ⟨m, -, hm⟩ := List.mem_flatMap.mp hmember
    exact decodes_memberSteps hm

theorem line?_of_isIdle {line : String} (h : isIdle line = true)
    (hpass : step? (symbols line.toList) = some .pass) :
    line? line = step? (symbols line.toList) := by
  refine line?_eq hpass (fun _ => h) ?_
  rintro m ⟨⟩

theorem line?_inputLines {shapes : List Shape} {o : Operation} (h : IsReadable o) {line : String}
    (hline : line ∈ Emit.Server.inputLines shapes o) :
    line? line = step? (symbols line.toList) := by
  unfold Emit.Server.inputLines at hline
  cases hinput : o.input with
  | none => simp [hinput] at hline
  | some input =>
    simp only [hinput, Option.elim_some, List.cons_append, List.mem_cons, List.mem_append,
      List.mem_map, List.not_mem_nil, or_false] at hline
    rcases hline with rfl | ⟨decoded, hdecoded, rfl⟩ | rfl | rfl | rfl
    · rfl
    · exact line?_decodeLines hdecoded
    · exact line?_of_isIdle (isIdle_inputLine (h.input input hinput)) (step?_inputLine input.name)
    · rfl
    · rfl

theorem line?_call {method : String} (h : isFreeName method = true) (hasInput hasOutput : Bool) :
    line? (if hasOutput then "    output = " ++ callLine method hasInput
        else "    " ++ callLine method hasInput) = some (.call method) := by
  have hsound := isSound_of_isFreeName h
  cases hasOutput with
  | true =>
    have hline : "    output = " ++ callLine method hasInput
        = "    " ++ ("output = " ++ callLine method hasInput) := by
      rw [← String.append_assoc]
      rfl
    rw [if_pos rfl, hline, line?, symbols_indented, step?_output hsound, isCall_output h]
    rfl
  | false =>
    rw [if_neg Bool.false_ne_true, line?, symbols_indented, step?_call hsound, isCall_callLine h]
    rfl

theorem line?_handlerBody {shapes : List Shape} {o : Operation} (h : IsReadable o)
    {line : String} (hline : line ∈ handlerBody shapes o) :
    line? line = step? (symbols line.toList) := by
  have hcall := line?_call h.method o.input.isSome o.output.isSome
  have hanswer := step?_answer o.output.isSome o.http.code
  rw [handlerBody, List.mem_append] at hline
  rcases hline with hinput | hline
  · exact line?_inputLines h hinput
  · simp only [List.mem_cons, List.not_mem_nil, or_false] at hline
    rcases hline with rfl | rfl | rfl | rfl | rfl | rfl | rfl | rfl
    · rfl
    · exact hcall.trans (step?_of_line? hcall).symm
    · rfl
    · rfl
    · rfl
    · have hlog : isLog (logLine o.name) = true := h.log
      have hidle : isIdle (logLine o.name) = true := by
        rw [isIdle, hlog, Bool.or_true, Bool.true_or]
      exact line?_of_isIdle hidle (step?_logLine o.name)
    · rfl
    · refine line?_eq hanswer ?_ ?_
      · rintro ⟨⟩
      · rintro m ⟨⟩

theorem run_handlerBody {types : List String}
    (htypes : ∀ t ∈ types, isImportable usedNames t = true) (shapes : List Shape) {o : Operation}
    (h : IsReadable o) :
    run types (handlerBody shapes o) = some (handlingFor o) := by
  have hlines : (handlerBody shapes o).mapM line? = steps? (handlerBody shapes o) :=
    Outcome.mapM_congr_some fun line hline => line?_handlerBody h hline
  rw [run, if_pos (List.all_eq_true.mpr htypes), hlines]
  exact handling?_handlerBody shapes o

end SmithyGen.Handler
