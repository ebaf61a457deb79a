import SmithyGen.Proofs.PathTemplate

namespace SmithyGen.UriTemplate

open Code

/-- The fields of a formatted text; `inside` is what has been read of a field. -/
def fieldsFrom : (inside : Option (List Char)) → List Char → Option (List (List Char))
  | none, [] => some []
  | none, '\x7b' :: '\x7b' :: cs => fieldsFrom none cs
  | none, '\x7d' :: '\x7d' :: cs => fieldsFrom none cs
  | none, '\x7b' :: cs => fieldsFrom (some []) cs
  | none, '\x7d' :: _ => none
  | none, _ :: cs => fieldsFrom none cs
  | some _, [] => none
  | some body, c :: cs =>
    if c == '\x7d' then (fieldsFrom none cs).map (body :: ·) else fieldsFrom (some (body ++ [c])) cs

def fields? (text : String) : Option (List (List Char)) := fieldsFrom none text.toList

/-- The label that a field takes out of the payload, and whether it is greedy. -/
def labelOf? : List Symbol → Option (String × Bool)
  | [.word "_quote", .sign "(", .word "payload", .sign ".", .word "pop", .sign "(", .text name,
      .sign ")", .sign ",", .word "greedy", .sign "=", .word "True", .sign ")"] => some (name, true)
  | [.word "_quote", .sign "(", .word "payload", .sign ".", .word "pop", .sign "(", .text name,
      .sign ")", .sign ",", .word "greedy", .sign "=", .word "False", .sign ")"] =>
    some (name, false)
  | _ => none

/-- The labels that the expression of a path fills in, left to right. -/
def pathLabels? : List Symbol → Option (List (String × Bool))
  | [.text _] => some []
  | [.formatted s] => do (← fields? s).mapM fun f => labelOf? (symbols f)
  | _ => none

def labelSymbols (label : List Char) : List Symbol :=
  [.word "_quote", .sign "(", .word "payload", .sign ".", .word "pop", .sign "(",
    .text (labelName label), .sign ")", .sign ",", .blank, .word "greedy", .sign "=",
    .word (if isGreedy label then "True" else "False"), .sign ")"]

theorem spell_labelSymbols (label : List Char) :
    spell (labelSymbols label) = (labelCall label).toList := by
  unfold labelCall labelSymbols
  cases isGreedy label <;> simp [spell, Symbol.chars, Text.quoted]

theorem spelled_labelSymbols (label : List Char) : Spelled (labelSymbols label) := by
  unfold labelSymbols
  split_ifs <;> exact .of_all (by rfl) (by rfl)

theorem labelOf?_labelCall (label : List Char) :
    labelOf? (symbols (labelCall label).toList) = some (labelName label, isGreedy label) := by
  rw [← spell_labelSymbols, symbols_spell (spelled_labelSymbols label)]
  unfold labelSymbols
  cases isGreedy label <;> rfl

theorem mapM_labelOf?_labelCall (ls : List (List Char)) :
    (ls.map fun l => (labelCall l).toList).mapM (fun f => labelOf? (symbols f))
      = some (ls.map fun l => (labelName l, isGreedy l)) := by
  induction ls with
  | nil => rfl
  | cons l ls ih =>
    simp only [List.map_cons, List.mapM_cons, labelOf?_labelCall, ih]
    rfl

theorem fieldsFrom_some {body field rest : List Char} (h : '\x7d' ∉ field) :
    fieldsFrom (some body) (field ++ '\x7d' :: rest)
      = (fieldsFrom none rest).map ((body ++ field) :: ·) := by
  induction field generalizing body with
  | nil => simp [fieldsFrom]
  | cons c field ih =>
    obtain ⟨hc, hfield⟩ : '\x7d' ≠ c ∧ '\x7d' ∉ field := by simpa using h
    have hne : (c == '\x7d') = false := by simpa using Ne.symm hc
    rw [List.cons_append, fieldsFrom, hne, if_neg Bool.false_ne_true, ih hfield,
      List.append_assoc, List.singleton_append]

theorem fieldsFrom_field {body rest : List Char} (hopen : body.head? ≠ some '\x7b')
    (hclose : '\x7d' ∉ body) :
    fieldsFrom none ('\x7b' :: (body ++ '\x7d' :: rest)) = (fieldsFrom none rest).map (body :: ·) := by
  rw [fieldsFrom, fieldsFrom_some hclose, List.nil_append]
  -- A body that starts with an opening brace would make the field a doubled brace.
  intro cs hcs
  cases body with
  | nil => simp at hcs
  | cons c body => exact hopen (congrArg some (List.cons.inj hcs).1)

def Piece.body? : Piece → Option (List Char)
  | .char _ => none
  | .field body => some body

theorem Reads.fieldsFrom_eq {cs : List Char} {ps : List Piece} (h : Reads cs ps) :
    fieldsFrom none cs = some (ps.filterMap Piece.body?) := by
  induction h with
  | nil => rfl
  | opening _ ih => exact ih
  | closing _ ih => exact ih
  | field hopen hclose _ ih =>
    rw [fieldsFrom_field hopen hclose, ih]
    rfl
  | plain ho hc _ ih =>
    rw [fieldsFrom, ih, List.filterMap_cons_none rfl] <;> simp_all

theorem filterMap_body?_pieces (bound : List String) (ps : List Part) :
    (ps.flatMap (Part.pieces bound)).filterMap Piece.body?
      = ((ps.filterMap Part.label?).filter fun l => bound.contains (labelName l)).map fun l =>
          (labelCall l).toList := by
  have hchars : ∀ cs : List Char, (cs.map Piece.char).filterMap Piece.body? = [] := by
    intro cs
    rw [List.filterMap_map, List.filterMap_eq_nil_iff]
    exact fun c _ => rfl
  induction ps with
  | nil => rfl
  | cons part ps ih =>
    rw [List.flatMap_cons, List.filterMap_append, ih]
    cases part with
    | char c => rfl
    | label text =>
      rw [Part.pieces, List.filterMap_cons_some (f := Part.label?) rfl, List.filter_cons]
      split_ifs
      · rfl
      · rw [hchars, List.nil_append]

/-- The fields of a path are those of its bound labels, left to right. -/
theorem fields?_formatted (bound : List String) (uri : List Char) :
    fields? (String.ofList (formatted bound uri))
      = some (((labels uri).filter fun l => bound.contains (labelName l)).map fun l =>
          (labelCall l).toList) := by
  rw [fields?, String.toList_ofList, (reads_formatted bound uri).fieldsFrom_eq,
    filterMap_body?_pieces, filterMap_label?_parts]

/-- The expression of a path as the one symbol it is. -/
def pathSymbol (uri : String) (bound : List String) : Symbol :=
  if (params uri).any bound.contains then .formatted (String.ofList (formatted bound uri.toList))
  else .text uri

theorem toList_pathExpression (uri : String) (bound : List String) :
    (pathExpression uri bound).toList = (pathSymbol uri bound).chars := by
  unfold pathExpression pathSymbol
  split_ifs <;> simp [Symbol.chars, Text.quoted]

/-- The labels with a bound name, left to right. -/
def boundLabels (uri : String) (bound : List String) : List (List Char) :=
  (labels uri.toList).filter fun l => bound.contains (labelName l)

theorem map_labelName_boundLabels (uri : String) (bound : List String) :
    (boundLabels uri bound).map labelName = (params uri).filter bound.contains := by
  rw [boundLabels, params, List.filter_map]
  rfl

/-- The expression of a path fills in its bound labels and no others. -/
theorem pathLabels?_pathSymbol (uri : String) (bound : List String) :
    pathLabels? [pathSymbol uri bound]
      = some ((boundLabels uri bound).map fun l => (labelName l, isGreedy l)) := by
  unfold pathSymbol
  split_ifs with hany
  · rw [pathLabels?, fields?_formatted]
    exact mapM_labelOf?_labelCall (boundLabels uri bound)
  · have hnil : boundLabels uri bound = [] := by
      rw [← List.map_eq_nil_iff (f := labelName), map_labelName_boundLabels,
        List.filter_eq_nil_iff]
      simpa using hany
    rw [hnil]
    rfl

end SmithyGen.UriTemplate
