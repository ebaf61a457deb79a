import SmithyGen.Emit.Types
import SmithyGen.Proofs.Naming
import SmithyGen.Proofs.RuleTexts
import SmithyGen.Proofs.Symbol

namespace SmithyGen

open Code

namespace Bounds

/-- Bounds that are whole numbers or absent, at least one of them given. -/
inductive Whole : Bounds → Prop where
  | between (a b : Int) : Whole ⟨.int a, .int b⟩
  | atLeast (a : Int) : Whole ⟨.int a, .null⟩
  | atMost (b : Int) : Whole ⟨.null, .int b⟩

/-- That a quantity is out of bounds. -/
def outside (quantity : List Symbol) : Bounds → List Symbol
  | ⟨.int a, .int b⟩ =>
    [.word "not", .blank, .number a, .blank, .sign "<=", .blank] ++ quantity
      ++ [.blank, .sign "<=", .blank, .number b]
  | ⟨.int a, _⟩ => quantity ++ [.blank, .sign "<", .blank, .number a]
  | ⟨_, .int b⟩ => quantity ++ [.blank, .sign ">", .blank, .number b]
  | _ => []

/-- What a condition on a quantity says before and after the attribute. -/
def frame (start stop : String) (b : Bounds) : List Char × List Char :=
  let lower := (b.min.display .sealed).toList
  let upper := (b.max.display .sealed).toList
  match isNull b.min, isNull b.max with
  | false, false =>
    ("not ".toList ++ (lower ++ (" <= " ++ start).toList), (stop ++ " <= ").toList ++ upper)
  | false, true => (start.toList, (stop ++ " < ").toList ++ lower)
  | true, _ => (start.toList, (stop ++ " > ").toList ++ upper)

end Bounds

namespace Rule

section Conditions

open Template

def conditionTemplates (start stop : String) : List (String × List Piece) :=
  [("between", [.text "not ", .field "min" none, .text (" <= " ++ start), .field "field_name" none,
      .text (stop ++ " <= "), .field "max" none]),
   ("min", [.text start, .field "field_name" none, .text (stop ++ " < "), .field "min" none]),
   ("max", [.text start, .field "field_name" none, .text (stop ++ " > "), .field "max" none])]

theorem fill_value {expand : List Char → Except Fault (List Char)} {params : Entries Subject}
    {name : String} {v : Value} (h : Template.resolve params name.toList = .ok (.value .sealed v)) :
    (Piece.field name none).fill expand params = .ok (v.display .sealed).toList := by
  refine Outcome.bind_eq_ok.mpr ⟨_, h, ?_⟩
  cases v <;> rfl

variable {r : Rule} {f : RuleField} {b : Bounds} {start stop : String}

theorem text_of_pieces {key s : String} {ps : List Piece} {texts : List (List Char)}
    (htemplate : r.text .sealed templates key = (Template.fill (r.params .sealed) s).map .str)
    (hs : s.toList = ps.flatMap Piece.source) (hps : ps.all Piece.isSound = true)
    (htexts : List.Forall₂ (fun p text => p.fill (fillTo (r.params .sealed) 1) (r.params .sealed)
      = .ok text) ps texts) :
    r.text .sealed templates key = .ok (.str (String.ofList texts.flatten)) := by
  rw [htemplate, fill_pieces hs (List.all_eq_true.mp hps) (Outcome.mapM_eq_ok_of_forall₂ htexts)]
  rfl

theorem text_bounded
    (hparams : r.params .sealed
      = fieldParams f ++ [("min", .value .sealed b.min), ("max", .value .sealed b.max)])
    (hending : r.ending = "_" ++ b.variant)
    (htemplates : ∀ entry ∈ conditionTemplates start stop, ∃ s : String,
      s.toList = entry.2.flatMap Piece.source ∧ entry.2.all Piece.isSound = true
        ∧ r.text .sealed templates ("condition" ++ ("_" ++ entry.1))
          = (Template.fill (r.params .sealed) s).map .str) :
    r.text .sealed templates ("condition" ++ r.ending)
      = .ok (.str (String.ofList ((b.frame start stop).1
          ++ (f.attributeName.toList ++ (b.frame start stop).2)))) := by
  have hname : (Piece.field "field_name" none).fill (fillTo (r.params .sealed) 1) (r.params .sealed)
      = .ok f.attributeName.toList := by
    rw [hparams]
    rfl
  have hmin : (Piece.field "min" none).fill (fillTo (r.params .sealed) 1) (r.params .sealed)
      = .ok (b.min.display .sealed).toList := by
    rw [hparams]
    exact fill_value rfl
  have hmax : (Piece.field "max" none).fill (fillTo (r.params .sealed) 1) (r.params .sealed)
      = .ok (b.max.display .sealed).toList := by
    rw [hparams]
    exact fill_value rfl
  simp only [conditionTemplates, List.forall_mem_cons] at htemplates
  obtain ⟨⟨between, hbetween, hbetweenSound, hbetweenText⟩, ⟨least, hleast, hleastSound, hleastText⟩,
    ⟨most, hmost, hmostSound, hmostText⟩, -⟩ := htemplates
  rw [hending]
  cases hlow : Bounds.isNull b.min with
  | false =>
    cases hhigh : Bounds.isNull b.max with
    | false =>
      have hvariant : b.variant = "between" := by simp [Bounds.variant, hlow, hhigh]
      rw [hvariant, text_of_pieces hbetweenText hbetween hbetweenSound (.cons rfl (.cons hmin (.cons rfl (.cons hname
        (.cons rfl (.cons hmax .nil))))))]
      simp [Bounds.frame, hlow, hhigh]
    | true =>
      have hvariant : b.variant = "min" := by simp [Bounds.variant, hlow, hhigh]
      rw [hvariant, text_of_pieces hleastText hleast hleastSound (.cons rfl (.cons hname (.cons rfl
        (.cons hmin .nil))))]
      simp [Bounds.frame, hlow, hhigh]
  | true =>
    have hvariant : b.variant = "max" := by
      simp [Bounds.variant, hlow]
    rw [hvariant, text_of_pieces hmostText hmost hmostSound (.cons rfl (.cons hname (.cons rfl
      (.cons hmax .nil))))]
    simp [Bounds.frame, hlow]

theorem text_length (f : RuleField) (b : Bounds) :
    text .sealed templates (.length f b) ("condition" ++ ending (.length f b))
      = .ok (.str (String.ofList ((b.frame "len(self." ")").1
          ++ (f.attributeName.toList ++ (b.frame "len(self." ")").2)))) := by
  refine text_bounded rfl rfl ?_
  simp only [conditionTemplates, List.forall_mem_cons]
  exact ⟨⟨_, rfl, by decide, rfl⟩, ⟨_, rfl, by decide, rfl⟩, ⟨_, rfl, by decide, rfl⟩, by simp⟩

theorem text_range (f : RuleField) (b : Bounds) :
    text .sealed templates (.range f b) ("condition" ++ ending (.range f b))
      = .ok (.str (String.ofList ((b.frame "self." "").1
          ++ (f.attributeName.toList ++ (b.frame "self." "").2)))) := by
  refine text_bounded rfl rfl ?_
  simp only [conditionTemplates, List.forall_mem_cons]
  exact ⟨⟨_, rfl, by decide, rfl⟩, ⟨_, rfl, by decide, rfl⟩, ⟨_, rfl, by decide, rfl⟩, by simp⟩

end Conditions

def attributeOf (name : String) : List Symbol := [.word "self", .sign ".", .word name]

/-- That the field of a rule is not as the rule wants it. -/
def failure : Rule → List Symbol
  | .required _ => []
  | .length f b => b.outside ([.word "len", .sign "("] ++ attributeOf f.attributeName ++ [.sign ")"])
  | .range f b => b.outside (attributeOf f.attributeName)
  | .pattern f p =>
    [.word "not", .blank, .word "re", .sign ".", .word "search", .sign "(", .text p, .sign ",",
      .blank] ++ attributeOf f.attributeName ++ [.sign ")"]

/-- A rule about one field, with whole bounds if it has any. -/
inductive Plain : Rule → Prop where
  | length (f : RuleField) {b : Bounds} (h : b.Whole) : Plain (.length f b)
  | range (f : RuleField) {b : Bounds} (h : b.Whole) : Plain (.range f b)
  | pattern (f : RuleField) (p : String) : Plain (.pattern f p)

theorem text_condition {r : Rule} (h : r.Plain) :
    r.text .sealed templates ("condition" ++ r.ending)
      = .ok (.str (String.ofList (spell r.failure))) := by
  cases h with
  | @length f b h =>
    have hspell : (b.frame "len(self." ")").1
        ++ (f.attributeName.toList ++ (b.frame "len(self." ")").2) = spell (failure (.length f b)) := by
      cases h <;> simp [Bounds.frame, Bounds.isNull, Value.display, Value.literal, failure,
        Bounds.outside, spell, attributeOf, Symbol.chars]
    rw [text_length, hspell]
  | @range f b h =>
    have hspell : (b.frame "self." "").1
        ++ (f.attributeName.toList ++ (b.frame "self." "").2) = spell (failure (.range f b)) := by
      cases h <;> simp [Bounds.frame, Bounds.isNull, Value.display, Value.literal, failure,
        Bounds.outside, spell, attributeOf, Symbol.chars]
    rw [text_range, hspell]
  | pattern f p =>
    have htext : text .sealed templates (.pattern f p) ("condition" ++ ending (.pattern f p))
        = (Template.fill (params .sealed (.pattern f p))
            "not re.search(\x7bpattern!r\x7d, self.\x7bfield_name\x7d)").map .str := rfl
    have hspell : spell (failure (.pattern f p)) = ["not re.search(".toList,
        (Text.quoted p).toList, ", self.".toList, f.attributeName.toList, ")".toList].flatten := by
      simp [failure, spell, attributeOf, Symbol.chars, Text.quoted]
    rw [htext, hspell, Template.fill_pieces
      (by rfl : _ = [.text "not re.search(", .field "pattern" (some 'r'), .text ", self.",
        .field "field_name" none, .text ")"].flatMap Template.Piece.source) (by decide) rfl]
    rfl

def presence : List Symbol :=
  [.blank, .word "is", .blank, .word "not", .blank, .word "None", .blank, .word "and", .blank]

def guardOf (f : RuleField) : List Symbol :=
  if f.isRequired then [] else attributeOf f.attributeName ++ presence

def opening (f : RuleField) : List Symbol := .word "if" :: .blank :: guardOf f

def branch (f : RuleField) (r : Rule) : List Symbol :=
  opening f ++ (r.failure ++ [Symbol.sign ":"])

def refusal (message : String) : List Symbol :=
  [.blank, .blank, .blank, .blank, .word "raise", .blank, .word "ValueError", .sign "(",
    .text message, .sign ")"]

theorem sharedLine_if (s : String) :
    sharedLine templates "if_line" "if \x7bcondition\x7d:" [("condition", .value .plain (.str s))]
      = .ok (String.ofList ("if ".toList ++ (s.toList ++ ":".toList))) := by
  rfl

theorem sharedLine_raise (message : String) :
    sharedLine templates "raise_line" "    raise ValueError(\x7berror_message!r\x7d)"
        [("error_message", .value .plain (.str message))]
      = .ok (String.ofList (spell (refusal message))) := by
  have hspell : spell (refusal message) = ["    raise ValueError(".toList,
      (Text.quoted message).toList, ")".toList].flatten := by
    simp [refusal, spell, Symbol.chars, Text.quoted]
  rw [hspell]
  exact Template.fill_pieces (s := "    raise ValueError(\x7berror_message!r\x7d)")
    (by rfl : _ = [.text "    raise ValueError(", .field "error_message" (some 'r'),
      .text ")"].flatMap Template.Piece.source) (by decide) rfl

theorem guarded_condition {r : Rule} {f : RuleField} (hf : r.field? = some f)
    (condition : List Char) :
    r.guarded (.str (String.ofList condition))
      = .str (String.ofList (spell (guardOf f) ++ condition)) := by
  simp only [guarded, hf, guardOf]
  split_ifs
  · rfl
  · refine congrArg Value.str (String.toList_inj.mp ?_)
    simp [spell, attributeOf, presence, Symbol.chars, Value.display]

/-- The lines of a rule about one field, around the text of its condition. -/
theorem lines_of_condition {r : Rule} {f : RuleField} (hf : r.field? = some f)
    {condition : List Char} (hc : r.text .sealed templates ("condition" ++ r.ending)
      = .ok (.str (String.ofList condition))) :
    ∃ message, (r.code .sealed templates).map Emit.Types.textsOf
      = .ok [String.ofList (spell (opening f) ++ (condition ++ ":".toList)),
          String.ofList (spell (refusal message))] := by
  obtain ⟨message, hm⟩ := texts_isOk hf (by simp : "error_message" ∈ _)
  have hline : "if ".toList ++ ((spell (guardOf f) ++ condition) ++ ":".toList)
      = spell (opening f) ++ (condition ++ ":".toList) := by
    simp [opening, spell, Symbol.chars]
  have hi : sharedLine templates "if_line" "if \x7bcondition\x7d:"
        [("condition", .value .plain (r.guarded (.str (String.ofList condition))))]
      = .ok (String.ofList (spell (opening f) ++ (condition ++ ":".toList))) := by
    rw [guarded_condition hf, sharedLine_if, ← hline]
    simp only [String.toList_ofList]
  have hcode : r.code .sealed templates = .ok (.list [
      .str (String.ofList (spell (opening f) ++ (condition ++ ":".toList))),
      .str (String.ofList (spell (refusal message)))]) := by
    cases r with
    | required fields => cases hf
    | _ => exact Outcome.bind_eq_ok.mpr ⟨_, hc, Outcome.bind_eq_ok.mpr ⟨_, hm,
        Outcome.bind_eq_ok.mpr ⟨_, hi, Outcome.bind_eq_ok.mpr ⟨_, sharedLine_raise message, rfl⟩⟩⟩⟩
  exact ⟨message, by rw [hcode]; rfl⟩

theorem lines_of_plain {r : Rule} (h : r.Plain) {f : RuleField} (hf : r.field? = some f) :
    ∃ message, (r.code .sealed templates).map Emit.Types.textsOf
      = .ok [String.ofList (spell (branch f r)), String.ofList (spell (refusal message))] := by
  have hbranch : spell (branch f r) = spell (opening f) ++ (spell r.failure ++ ":".toList) := by
    simp [branch, spell, Symbol.chars]
  rw [hbranch]
  exact lines_of_condition hf (text_condition h)

theorem spelled_failure {r : Rule} (h : r.Plain) {f : RuleField} (hf : r.field? = some f)
    (hname : (Symbol.word f.attributeName).isSound = true) :
    Spelled (r.failure ++ [Symbol.sign ":"]) := by
  have hall : (r.failure ++ [Symbol.sign ":"]).all Symbol.isSound = true := by
    cases h with
    | length _ h | range _ h =>
      obtain rfl := Option.some.inj hf
      cases h <;> simp only [failure, Bounds.outside, attributeOf, List.cons_append,
        List.nil_append, List.all_cons, hname] <;> rfl
    | pattern _ p =>
      obtain rfl := Option.some.inj hf
      simp only [failure, attributeOf, List.cons_append, List.nil_append, List.all_cons, hname]
      rfl
  refine ⟨List.all_eq_true.mp hall, ?_⟩
  cases h with
  | length _ h | range _ h => cases h <;> exact of_decide_eq_true rfl
  | pattern _ p => exact of_decide_eq_true rfl

theorem spelled_opening {f : RuleField} (hname : (Symbol.word f.attributeName).isSound = true) :
    Spelled (opening f) := by
  unfold opening guardOf
  split_ifs
  · decide
  · have hall : (.word "if" :: .blank :: (attributeOf f.attributeName ++ presence)).all
        Symbol.isSound = true := by
      simp only [attributeOf, presence, List.cons_append, List.nil_append, List.all_cons, hname]
      rfl
    exact .of_all hall (by rfl)

theorem getLast?_opening (f : RuleField) : (opening f).getLast? = some .blank := by
  unfold opening guardOf
  split_ifs <;> rfl

theorem spelled_branch {r : Rule} (h : r.Plain) {f : RuleField} (hf : r.field? = some f)
    (hname : (Symbol.word f.attributeName).isSound = true) : Spelled (branch f r) :=
  (spelled_opening hname).append_of_blank (spelled_failure h hf hname) (getLast?_opening f)

theorem spelled_refusal (message : String) : Spelled (refusal message) :=
  .of_all (by rfl) (by rfl)

def pairSymbols (pair : String × String) : List Symbol :=
  [.sign "(", .text pair.1, .sign ",", .blank, .text pair.2, .sign ")"]

/-- Items between brackets, with a comma after a single one. -/
def tupleSymbols (items : List (List Symbol)) : List Symbol :=
  .sign "(" :: (comma.intercalate items ++ (if items.length = 1 then [.sign ","] else [])
    ++ [Symbol.sign ")"])

theorem toList_tuple {xs : List String} {items : List (List Symbol)}
    (h : xs.map String.toList = items.map spell) :
    (Value.tuple xs).toList = spell (tupleSymbols items) := by
  have hl : xs.length = items.length := by simpa using congrArg List.length h
  have hbody := toList_intercalate_comma h
  have hspell : spell (tupleSymbols items) = '(' :: ((", ".intercalate xs).toList
      ++ (if xs.length = 1 then [','] else []) ++ [')']) := by
    rw [hbody, hl]
    split_ifs with hone <;> simp [tupleSymbols, spell, Symbol.chars, hone]
  rw [hspell]
  unfold Value.tuple
  split
  · simp
  next hne =>
    have hlen : xs.length ≠ 1 := by
      intro he
      obtain ⟨x, rfl⟩ := List.length_eq_one_iff.mp he
      exact hne x rfl
    simp [hlen]

theorem spelled_tupleSymbols {items : List (List Symbol)} (h : ∀ ss ∈ items, Spelled ss) :
    Spelled (tupleSymbols items) := by
  have hitems := Spelled.intercalate_comma h
  have hbody : Spelled (comma.intercalate items
      ++ if items.length = 1 then [.sign ","] else []) := by
    split_ifs
    · exact hitems.snoc_closer (by decide)
    · simpa using hitems
  have hopen : Spelled [Symbol.sign "("] := by decide
  exact hopen.append_of_opener (hbody.snoc_closer (by decide)) (by decide) rfl

theorem toList_literal_pairs (fields : List (String × String)) :
    (pairs fields).literal.toList = spell (tupleSymbols (fields.map pairSymbols)) := by
  have hitems : (Value.literals .sealed (fields.map fun p => .list [.str p.1, .str p.2])).map
      String.toList = (fields.map pairSymbols).map spell := by
    induction fields with
    | nil => rfl
    | cons pair fields ih =>
      simp only [List.map_cons, Value.literals, ih]
      simp [Value.literal, Value.literals, Value.Form.list, Value.tuple, pairSymbols, spell,
        Symbol.chars, Text.quoted]
  exact toList_tuple hitems

def collectionStart : List Symbol :=
  [.word "missing", .blank, .sign "=", .blank, .sign "[", .word "member", .blank, .word "for",
    .blank, .word "name", .sign ",", .blank, .word "member", .blank, .word "in", .blank]

def collectionEnd : List Symbol :=
  [.blank, .word "if", .blank, .word "getattr", .sign "(", .word "self", .sign ",", .blank,
    .word "name", .sign ")", .blank, .word "is", .blank, .word "None", .sign "]"]

def collection (fields : List (String × String)) : List Symbol :=
  collectionStart ++ tupleSymbols (fields.map pairSymbols) ++ collectionEnd

theorem spelled_collection (fields : List (String × String)) : Spelled (collection fields) := by
  have hpairs : Spelled (tupleSymbols (fields.map pairSymbols)) := by
    refine spelled_tupleSymbols ?_
    intro ss hss
    obtain ⟨pair, -, rfl⟩ := List.mem_map.mp hss
    exact .of_all (by rfl) (by rfl)
  have hstart : Spelled collectionStart := by decide
  have hend : Spelled collectionEnd := by decide
  refine (hstart.append_of_blank hpairs rfl).append hend ?_
  intro s _ t ht
  obtain rfl : Symbol.blank = t := Option.some.inj ht
  cases s <;> rfl

def missingLines : List String :=
  ["if missing:", "    raise ValueError(\"Missing required field(s): \" + \", \".join(missing))"]

theorem code_required (fields : List (String × String)) :
    (required fields).code .sealed templates = Template.fillValue (params .sealed (.required fields))
      (.list [.str "missing = [member for name, member in \x7bfields!r\x7d if getattr(self, name) is None]",
        .str "if missing:",
        .str "    raise ValueError(\"Missing required field(s): \" + \", \".join(missing))"]) := by
  rfl

theorem lines_of_required (fields : List (String × String)) :
    ((required fields).code .sealed templates).map Emit.Types.textsOf
      = .ok (String.ofList (spell (collection fields)) :: missingLines) := by
  have hspell : spell (collection fields) = ["missing = [member for name, member in ".toList,
      (pairs fields).literal.toList, " if getattr(self, name) is None]".toList].flatten := by
    rw [toList_literal_pairs]
    simp [collection, collectionStart, collectionEnd, spell, Symbol.chars]
  have hfill : Template.fill (params .sealed (.required fields))
      "missing = [member for name, member in \x7bfields!r\x7d if getattr(self, name) is None]"
        = .ok (String.ofList (spell (collection fields))) := by
    rw [hspell]
    exact Template.fill_pieces
      (by rfl : _ = [.text "missing = [member for name, member in ", .field "fields" (some 'r'),
        .text " if getattr(self, name) is None]"].flatMap Template.Piece.source) (by decide) rfl
  have hif : Template.fill (params .sealed (.required fields)) "if missing:" = .ok "if missing:" :=
    Template.fill_text (by decide)
  have hraise : Template.fill (params .sealed (.required fields))
      "    raise ValueError(\"Missing required field(s): \" + \", \".join(missing))"
        = .ok "    raise ValueError(\"Missing required field(s): \" + \", \".join(missing))" :=
    Template.fill_text (by decide)
  simp only [code_required, Template.fillValue, Template.fillValues, hfill, hif, hraise]
  rfl

theorem ifLine_isOk (r : Rule) (condition : String) :
    ∃ line, sharedLine templates "if_line" "if \x7bcondition\x7d:"
      [("condition", .value .plain (r.guarded (.str condition)))] = .ok line := by
  have htext : ∃ text, r.guarded (.str condition) = .str text := by
    unfold guarded
    split
    · split_ifs <;> exact ⟨_, rfl⟩
    · exact ⟨condition, rfl⟩
  obtain ⟨text, htext⟩ := htext
  rw [htext]
  exact ⟨_, sharedLine_if text⟩

theorem code_isOk (r : Rule) : ∃ v, r.code .sealed templates = .ok v := by
  cases hf : r.field? with
  | none =>
    cases r with
    | required fields =>
      obtain ⟨v, hv, -⟩ := Outcome.map_eq_ok.mp (lines_of_required fields)
      exact ⟨v, hv⟩
    | _ => cases hf
  | some f =>
    obtain ⟨condition, hcondition⟩ := texts_isOk hf (by simp : "condition" ∈ _)
    obtain ⟨message, hmessage⟩ := texts_isOk hf (by simp : "error_message" ∈ _)
    obtain ⟨ifLine, hif⟩ := r.ifLine_isOk condition
    have hraise := sharedLine_raise message
    cases r with
    | required fields => cases hf
    | _ => exact ⟨_, Outcome.bind_eq_ok.mpr ⟨_, hcondition, Outcome.bind_eq_ok.mpr ⟨_, hmessage,
        Outcome.bind_eq_ok.mpr ⟨_, hif, Outcome.bind_eq_ok.mpr ⟨_, hraise, rfl⟩⟩⟩⟩⟩

end Rule

namespace Emit

/-- The checks of all rules can be written. -/
theorem Types.validations_isOk (rules : List Rule) :
    ∃ checks, Types.validations rules = .ok checks :=
  Outcome.mapM_isOk fun r _ => by
    obtain ⟨v, hv⟩ := r.code_isOk
    exact ⟨_, Outcome.map_eq_ok.mpr ⟨v, hv, rfl⟩⟩

end Emit

end SmithyGen
