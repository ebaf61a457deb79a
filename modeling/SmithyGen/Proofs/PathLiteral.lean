import SmithyGen.Proofs.LiteralToken
import SmithyGen.Proofs.Outcome
import SmithyGen.Proofs.PathExpression

namespace SmithyGen

namespace Code

/-- A scan of a replacement field goes over some text, whatever follows that. -/
def Passes (s : FieldScan) (cs : List Char) (s' : FieldScan) : Prop :=
  ∀ rest, fieldExpression? s (cs ++ rest)
    = (fieldExpression? s' rest).map fun (body, left) => (cs ++ body, left)

namespace Passes

variable {s s' s'' : FieldScan}

theorem nil (s : FieldScan) : Passes s [] s := by
  intro rest
  rw [List.nil_append]
  cases fieldExpression? s rest <;> rfl

theorem append {cs ds : List Char} (h : Passes s cs s') (h' : Passes s' ds s'') :
    Passes s (cs ++ ds) s'' := by
  intro rest
  rw [List.append_assoc, h, h']
  cases fieldExpression? s'' rest <;> simp

theorem single {c : Char} (hskip : s.skip = 0)
    (hend : ∀ cs, (s.quotes.isEmpty && s.closers.isEmpty && endsExpression c cs) = false)
    (hadd : ∀ cs, s.add c cs = some s') : Passes s [c] s' := by
  intro rest
  rw [List.singleton_append, fieldExpression?, hskip]
  simp only [hend, hadd, Bool.false_eq_true, if_false, Option.bind_eq_bind, Option.bind_some]
  cases fieldExpression? s' rest <;> rfl

end Passes

def isFieldChar (c : Char) : Bool :=
  c != '\\' && !isQuote c && c != '#' && (closing? c).isNone && !isClosing c

theorem FieldScan.add_of_isFieldChar {s : FieldScan} (hquotes : s.quotes = []) {c : Char}
    (hc : isFieldChar c = true) (hopen : s.closers.isEmpty = false ∨ isWordChar c = true)
    (cs : List Char) : s.add c cs = some s := by
  simp only [isFieldChar, Bool.and_eq_true, bne_iff_ne, Bool.not_eq_true',
    Option.isNone_iff_eq_none] at hc
  obtain ⟨⟨⟨⟨hbackslash, hquote⟩, hcomment⟩, hopening⟩, hclosing⟩ := hc
  have hlast : (s.closers.isEmpty && cs.head? == some '='
      && (c == '!' || c == '=' || c == '<' || c == '>')) = false := by
    rcases hopen with hopen | hword
    · rw [hopen, Bool.false_and, Bool.false_and]
    · have hsign : (c == '!' || c == '=' || c == '<' || c == '>') = false := by
        rw [Bool.eq_false_iff]
        intro hsign
        simp only [Bool.or_eq_true, beq_iff_eq] at hsign
        rcases hsign with ((rfl | rfl) | rfl) | rfl <;> exact absurd hword (by decide)
      rw [hsign, Bool.and_false]
  simp [add, hbackslash, hquotes, hquote, hcomment, hopening, hclosing, hlast]

/-- Words, and all that stands in brackets but literals and brackets. -/
theorem Passes.of_fieldChars {s : FieldScan} (hskip : s.skip = 0) (hquotes : s.quotes = [])
    {cs : List Char} (hcs : (cs.all fun c => isFieldChar c
      && (!s.closers.isEmpty || isWordChar c)) = true) : Passes s cs s := by
  induction cs with
  | nil => exact .nil s
  | cons c cs ih =>
    simp only [List.all_cons, Bool.and_eq_true, Bool.or_eq_true, Bool.not_eq_true'] at hcs
    obtain ⟨⟨hc, hopen⟩, hcs⟩ := hcs
    have hend : ∀ ds, (s.quotes.isEmpty && s.closers.isEmpty && endsExpression c ds) = false := by
      intro ds
      rcases hopen with hopen | hword
      · simp [hopen]
      · have hends : endsExpression c ds = false := by
          rw [Bool.eq_false_iff]
          intro hends
          simp only [endsExpression, Bool.or_eq_true, Bool.and_eq_true, beq_iff_eq] at hends
          rcases hends with (rfl | rfl) | ⟨rfl | rfl, -⟩ <;> exact absurd hword (by decide)
        rw [hends, Bool.and_false]
    have hfirst : Passes s [c] s :=
      .single hskip hend (FieldScan.add_of_isFieldChar hquotes hc hopen)
    exact hfirst.append (ih hcs)

def inName (quote : Char) : FieldScan := { quotes := [quote], closers := [')', ')'] }

def inCall : FieldScan := { closers := [')', ')'] }

theorem passes_start : Passes {} "_quote(payload.pop(".toList inCall := by
  have hparen : ∀ {closers : List Char}, closers.length < bracketDepth →
      Passes { closers } ['('] { closers := ')' :: closers } := by
    intro closers h
    refine .single rfl (fun cs => ?_) fun cs => ?_
    · cases closers <;> rfl
    · exact if_pos h
  have hfirst : Passes {} "_quote".toList {} := .of_fieldChars rfl rfl (by decide)
  have hsecond : Passes { closers := [')'] } "payload.pop".toList { closers := [')'] } :=
    .of_fieldChars rfl rfl (by decide)
  exact hfirst.append ((hparen (by decide)).append (hsecond.append (hparen (by decide))))

theorem passes_end (isGreedy : Bool) :
    Passes inCall ("), greedy=" ++ (if isGreedy then "True" else "False") ++ ")").toList {} := by
  have hparen : ∀ {closers : List Char},
      Passes { closers := ')' :: closers } [')'] { closers } := by
    intro closers
    exact .single rfl (fun cs => rfl) fun cs => rfl
  have hword : Passes { closers := [')'] }
      (", greedy=" ++ (if isGreedy then "True" else "False")).toList { closers := [')'] } := by
    cases isGreedy <;> exact .of_fieldChars rfl rfl (by decide)
  have hall := hparen.append (hword.append hparen)
  cases isGreedy <;> exact hall

/-- Inside of a name everything is passed over, up to its quote or a backslash. -/
theorem passes_name {quote : Char} {cs : List Char} (h : ∀ c ∈ cs, c ≠ quote ∧ c ≠ '\\') :
    Passes (inName quote) cs (inName quote) := by
  induction cs with
  | nil => exact .nil _
  | cons c cs ih =>
    obtain ⟨hquote, hbackslash⟩ := h c (by simp)
    have hfirst : Passes (inName quote) [c] (inName quote) := by
      refine .single rfl (fun ds => rfl) fun ds => ?_
      simp [FieldScan.add, inName, hbackslash, hquote]
    exact hfirst.append (ih fun d hd => h d (by simp [hd]))

/-- A name is opened by a single quote character, unless three of them stand in a row. -/
theorem fieldExpression?_quote {quote : Char} (hq : isQuote quote = true) {cs : List Char}
    (h : cs.take 2 ≠ [quote, quote]) :
    fieldExpression? inCall (quote :: cs)
      = (fieldExpression? (inName quote) cs).map fun (body, left) => (quote :: body, left) := by
  have hne := ne_backslash_of_isQuote hq
  have hadd : inCall.add quote cs = some (inName quote) := by
    simp [FieldScan.add, inCall, inName, hne, hq, h]
  have hopen : (inCall.quotes.isEmpty && inCall.closers.isEmpty && endsExpression quote cs)
      = false := by rfl
  have hskip : inCall.skip = 0 := by rfl
  rw [fieldExpression?, hskip]
  simp only [hopen, hadd, Bool.false_eq_true, if_false, Option.bind_eq_bind, Option.bind_some]
  cases fieldExpression? (inName quote) cs <;> rfl

theorem passes_closingQuote {quote : Char} (hq : isQuote quote = true) :
    Passes (inName quote) [quote] inCall := by
  have hne := ne_backslash_of_isQuote hq
  refine .single rfl (fun cs => rfl) fun cs => ?_
  simp [FieldScan.add, inCall, inName, hne]

theorem fieldExpression?_backslash {s : FieldScan} (hskip : s.skip = 0) (cs : List Char) :
    fieldExpression? s ('\\' :: cs) = none := by
  have hend : endsExpression '\\' cs = false := by simp [endsExpression]
  rw [fieldExpression?, hskip]
  simp [hend, FieldScan.add]

/-- What the fields of a text are, if these can be read. -/
def FieldsAre (cs : List Char) (r : Option (List (List Char))) : Prop :=
  ∀ fuel, cs.length < fuel → fieldsFrom false fuel 0 cs = r.map (·, [])

theorem FieldsAre.fields?_eq {cs : List Char} {r : Option (List (List Char))}
    (h : FieldsAre cs r) : fields? false cs = r := by
  rw [fields?, h _ (Nat.lt_succ_self _), Option.map_map]
  cases r <;> rfl

namespace FieldsAre

variable {cs : List Char} {r : Option (List (List Char))}

theorem nil : FieldsAre [] (some []) := by
  intro fuel h
  cases fuel with
  | zero => exact absurd h (by decide)
  | succ fuel => rfl

theorem plain {c : Char} (hbackslash : c ≠ '\\') (hopen : c ≠ '\x7b') (hclose : c ≠ '\x7d')
    (h : FieldsAre cs r) : FieldsAre (c :: cs) r := by
  intro fuel hfuel
  cases fuel with
  | zero => exact absurd hfuel (Nat.not_lt_zero _)
  | succ fuel =>
    rw [← h fuel (by simpa using hfuel), fieldsFrom]
    simp [hbackslash, hopen, hclose]

theorem plain_append {ds : List Char}
    (hds : ∀ d ∈ ds, d ≠ '\\' ∧ d ≠ '\x7b' ∧ d ≠ '\x7d') (h : FieldsAre cs r) :
    FieldsAre (ds ++ cs) r := by
  induction ds with
  | nil => exact h
  | cons d ds ih =>
    obtain ⟨hbackslash, hopen, hclose⟩ := hds d (by simp)
    exact .plain hbackslash hopen hclose (ih fun e he => hds e (by simp [he]))

theorem escaped {mark : Char} (hmark : mark ∈ escapeMarks) (h : FieldsAre cs r) :
    FieldsAre ('\\' :: mark :: cs) r := by
  have hne : mark ≠ 'N' ∧ mark ≠ '\x7b' ∧ mark ≠ '\x7d' := by
    have hall : (escapeMarks.all fun m => m != 'N' && m != '\x7b' && m != '\x7d') = true := by rfl
    simpa [and_assoc] using List.all_eq_true.mp hall mark hmark
  intro fuel hfuel
  cases fuel with
  | zero => exact absurd hfuel (Nat.not_lt_zero _)
  | succ fuel =>
    rw [← h fuel (by simp only [List.length_cons] at hfuel; omega), fieldsFrom]
    simp [hne]

theorem doubled {c : Char} (hc : c = '\x7b' ∨ c = '\x7d') (h : FieldsAre cs r) :
    FieldsAre (c :: c :: cs) r := by
  intro fuel hfuel
  cases fuel with
  | zero => exact absurd hfuel (Nat.not_lt_zero _)
  | succ fuel =>
    rw [← h fuel (by simp only [List.length_cons] at hfuel; omega), fieldsFrom]
    rcases hc with rfl | rfl <;> simp

theorem field {body : List Char} (hopen : body.head? = some '_')
    (hbody : fieldExpression? {} (body ++ '\x7d' :: cs) = some (body, '\x7d' :: cs))
    (h : FieldsAre cs r) :
    FieldsAre ('\x7b' :: (body ++ '\x7d' :: cs)) (r.map (body :: ·)) := by
  obtain ⟨rest, rfl⟩ := List.head?_eq_some_iff.mp hopen
  intro fuel hfuel
  cases fuel with
  | zero => exact absurd hfuel (Nat.not_lt_zero _)
  | succ fuel =>
    have hrest := h fuel (by
      simp only [List.length_cons, List.length_append] at hfuel
      omega)
    have hblank : ('_' :: rest).any (!isFieldBlank ·) = true := by rfl
    have hafter : afterExpression? ('\x7d' :: cs) = some ('\x7d' :: cs) := by rfl
    simp only [List.cons_append] at hbody ⊢
    rw [fieldsFrom, hbody]
    simp only [Option.bind_eq_bind, Option.bind_some, hblank, hafter, hrest, guard, if_true]
    cases r <;> rfl

theorem unread {body : List Char} (hopen : body.head? = some '_')
    (hbody : fieldExpression? {} body = none) : FieldsAre ('\x7b' :: body) none := by
  obtain ⟨rest, rfl⟩ := List.head?_eq_some_iff.mp hopen
  intro fuel hfuel
  cases fuel with
  | zero => exact absurd hfuel (Nat.not_lt_zero _)
  | succ fuel =>
    rw [fieldsFrom]
    simp [hbody]

end FieldsAre

end Code

namespace UriTemplate

open Code

/-- A name that stands in a literal between single quotes as it is. -/
def isFieldText (name : String) : Bool :=
  name.toList.all fun c => Text.escapeChar '\'' c == [c]

theorem isFieldText_iff {name : String} :
    isFieldText name = true ↔ ∀ c ∈ name.toList, Text.escapeChar '\'' c = [c] := by
  simp [isFieldText]

theorem escapeChar_cases {quote : Char} (hq : isQuote quote = true) (c : Char) :
    (Text.escapeChar quote c = [c] ∧ c ≠ quote ∧ c ≠ '\\')
      ∨ ∃ ds, Text.escapeChar quote c = '\\' :: ds ∧ ds ≠ [] := by
  generalize hwritten : Text.escapeChar quote c = written
  have h := escape_escapeChar hq c
  rw [hwritten] at h
  cases h with
  | none hquote hbackslash _ => exact Or.inl ⟨rfl, hquote, hbackslash⟩
  | some => exact Or.inr ⟨_, rfl, by simp⟩

/-- A character of a name, written in a literal that is written in another one. -/
def escapeTwice (inner outer c : Char) : List Char :=
  (Text.escapeChar inner c).flatMap (Text.escapeChar outer)

theorem escapeChar_backslash (quote : Char) : Text.escapeChar quote '\\' = ['\\', '\\'] := by
  simp [Text.escapeChar]

section Quotes

variable {inner outer : Char} (hinner : isQuote inner = true) (houter : isQuote outer = true)

include hinner houter

theorem escapeTwice_cases (c : Char) :
    (escapeTwice inner outer c = [c] ∧ Text.escapeChar inner c = [c] ∧ c ≠ inner ∧ c ≠ outer
        ∧ c ≠ '\\')
      ∨ ∃ ds, escapeTwice inner outer c = '\\' :: ds := by
  unfold escapeTwice
  rcases escapeChar_cases hinner c with ⟨hself, hne, hbackslash⟩ | ⟨ds, hds, -⟩
  · rw [hself, List.flatMap_cons, List.flatMap_nil, List.append_nil]
    rcases escapeChar_cases houter c with ⟨hself', hne', -⟩ | ⟨ds, hds, -⟩
    · exact Or.inl ⟨hself', rfl, hne, hne', hbackslash⟩
    · exact Or.inr ⟨ds, hds⟩
  · rw [hds, List.flatMap_cons, escapeChar_backslash]
    exact Or.inr ⟨_, rfl⟩

/-- What is written twice is unchanged, or unchanged up to a backslash. -/
theorem flatMap_escapeTwice (cs : List Char) :
    (cs.flatMap (escapeTwice inner outer) = cs
        ∧ ∀ c ∈ cs, Text.escapeChar inner c = [c] ∧ c ≠ inner ∧ c ≠ outer ∧ c ≠ '\\')
      ∨ ∃ before after, cs.flatMap (escapeTwice inner outer) = before ++ '\\' :: after
        ∧ ∀ c ∈ before, c ≠ inner ∧ c ≠ '\\' := by
  induction cs with
  | nil => exact Or.inl ⟨rfl, by simp⟩
  | cons c cs ih =>
    rw [List.flatMap_cons]
    rcases escapeTwice_cases hinner houter c with ⟨hself, hc⟩ | ⟨ds, hds⟩
    · rw [hself]
      rcases ih with ⟨hcs, hall⟩ | ⟨before, after, hcs, hall⟩
      · rw [hcs]
        exact Or.inl ⟨rfl, by simpa using ⟨hc, hall⟩⟩
      · rw [hcs]
        exact Or.inr ⟨c :: before, after, rfl, by simpa using ⟨⟨hc.2.1, hc.2.2.2⟩, hall⟩⟩
    · rw [hds]
      exact Or.inr ⟨[], _, rfl, by simp⟩

end Quotes

def callStart : List Char := "_quote(payload.pop(".toList

def callEnd (label : List Char) : List Char :=
  ("), greedy=" ++ (if isGreedy label then "True" else "False") ++ ")").toList

theorem toList_labelCall (label : List Char) :
    (labelCall label).toList
      = callStart ++ (Text.quotedChars (labelName label).toList ++ callEnd label) := by
  unfold labelCall callStart callEnd
  simp only [String.toList_append, Text.quoted, String.toList_ofList, List.append_assoc]

theorem flatMap_escapeChar_labelCall {quote : Char} (hq : isQuote quote = true)
    (label : List Char) :
    (labelCall label).toList.flatMap (Text.escapeChar quote)
      = callStart ++ ((Text.quotedChars (labelName label).toList).flatMap (Text.escapeChar quote)
          ++ callEnd label) := by
  have hquote := isQuote_iff.mp hq
  have hstart : callStart.flatMap (Text.escapeChar quote) = callStart := by
    rcases hquote with rfl | rfl <;> decide
  have hend : (callEnd label).flatMap (Text.escapeChar quote) = callEnd label := by
    unfold callEnd
    rcases hquote with rfl | rfl <;> cases isGreedy label <;> decide
  rw [toList_labelCall, List.flatMap_append, List.flatMap_append, hstart, hend]

/-- A name that may stand in a field of a literal with such quotes. -/
def Fits (quote : Char) (name : String) : Prop :=
  quote = '"' ∧ isFieldText name = true ∧ '"' ∉ name.toList

instance (quote : Char) (name : String) : Decidable (Fits quote name) :=
  inferInstanceAs (Decidable (_ ∧ _ ∧ _))

def field? (quote : Char) (label : List Char) : Option (List Char) :=
  if Fits quote (labelName label) then some (labelCall label).toList else none

theorem quoteFor_of_isFieldText {name : String} (h : isFieldText name = true) :
    Text.quoteFor name.toList = '\'' := by
  have hnone : name.toList.contains '\'' = false := by
    rw [Bool.eq_false_iff]
    intro hmem
    have hself := isFieldText_iff.mp h '\'' (by simpa using hmem)
    exact absurd hself (by decide)
  rw [Text.quoteFor, hnone]
  rfl

theorem quotedChars_of_isFieldText {name : String} (h : isFieldText name = true) :
    Text.quotedChars name.toList = '\'' :: (name.toList ++ ['\'']) := by
  rw [Text.quotedChars, quoteFor_of_isFieldText h, flatMap_eq_self (isFieldText_iff.mp h)]

theorem escapeChar_of_isFieldText {name : String} (h : isFieldText name = true)
    (hquote : '"' ∉ name.toList) {c : Char} (hc : c ∈ name.toList) :
    Text.escapeChar '"' c = [c] := by
  have hself := isFieldText_iff.mp h c hc
  have hne : c ≠ '"' := fun heq => hquote (heq ▸ hc)
  have hapostrophe : isQuote '\'' = true := by decide
  rcases escapeChar_cases hapostrophe c with ⟨-, hne', hbackslash⟩ | ⟨ds, hds, -⟩
  · unfold Text.escapeChar at hself ⊢
    have hfirst : (c == '\'' || c == '\\') = false := by simp [hne', hbackslash]
    have hfirst' : (c == '"' || c == '\\') = false := by simp [hne, hbackslash]
    rw [hfirst, if_neg Bool.false_ne_true] at hself
    rw [hfirst', if_neg Bool.false_ne_true]
    exact hself
  · rw [hself] at hds
    obtain ⟨rfl, rfl⟩ := List.cons.inj hds
    contradiction

theorem fieldExpression?_of_fits {label : List Char} (h : Fits '"' (labelName label))
    (rest : List Char) :
    fieldExpression? {} ((labelCall label).toList ++ '\x7d' :: rest)
      = some ((labelCall label).toList, '\x7d' :: rest) := by
  obtain ⟨-, htext, -⟩ := h
  have hquote : isQuote '\'' = true := by decide
  have hname : ∀ c ∈ (labelName label).toList, c ≠ '\'' ∧ c ≠ '\\' := by
    intro c hc
    have hself := isFieldText_iff.mp htext c hc
    rcases escapeChar_cases hquote c with ⟨-, hc⟩ | ⟨ds, hds, hne⟩
    · exact hc
    · rw [hself] at hds
      exact absurd (List.cons.inj hds).2.symm hne
  have hcut : ((labelName label).toList ++ '\'' :: (callEnd label ++ '\x7d' :: rest)).take 2
      ≠ ['\'', '\''] := by
    cases hcs : (labelName label).toList with
    | nil => simp [callEnd]
    | cons c cs => simpa using fun heq => absurd heq (hname c (by simp [hcs])).1
  have hend : fieldExpression? {} ('\x7d' :: rest) = some ([], '\x7d' :: rest) := by rfl
  have hafter : Passes (inName '\'') ((labelName label).toList ++ ['\''] ++ callEnd label) {} :=
    ((passes_name hname).append (passes_closingQuote hquote)).append (passes_end _)
  have hopen := fieldExpression?_quote hquote hcut
  have hlast := hafter ('\x7d' :: rest)
  rw [hend, Option.map_some] at hlast
  simp only [List.append_assoc, List.cons_append, List.nil_append, List.append_nil] at hlast
  rw [hlast, Option.map_some] at hopen
  rw [toList_labelCall, quotedChars_of_isFieldText htext]
  simp only [List.append_assoc, List.cons_append, List.nil_append]
  refine (passes_start _).trans ?_
  rw [hopen]
  rfl

/-- A name fits where both its quotes and the quotes around it leave its characters as they are. -/
theorem fits_of_quoteFor {quote : Char} (hq : isQuote quote = true) {name : String}
    (hne : Text.quoteFor name.toList ≠ quote)
    (h : ∀ c ∈ name.toList,
      Text.escapeChar (Text.quoteFor name.toList) c = [c] ∧ c ≠ quote) : Fits quote name := by
  have hquote := isQuote_iff.mp hq
  unfold Text.quoteFor at hne h
  split_ifs at hne h with hboth
  · obtain rfl := hquote.resolve_left (Ne.symm hne)
    simp only [Bool.and_eq_true, List.contains_iff_mem] at hboth
    exact absurd rfl (h '\'' hboth.1).2
  · obtain rfl := hquote.resolve_right (Ne.symm hne)
    exact ⟨rfl, isFieldText_iff.mpr fun c hc => (h c hc).1, fun hmem => (h '"' hmem).2 rfl⟩

/-- A name that does not fit is written with a backslash, before which nothing ends the field. -/
theorem fieldExpression?_of_not_fits {quote : Char} (hq : isQuote quote = true)
    {label : List Char} (h : ¬ Fits quote (labelName label)) (rest : List Char) :
    fieldExpression? {} ((labelCall label).toList.flatMap (Text.escapeChar quote) ++ rest)
      = none := by
  have hinner := isQuote_quoteFor (labelName label).toList
  rw [flatMap_escapeChar_labelCall hq, List.append_assoc]
  refine (passes_start _).trans (Option.map_eq_none_iff.mpr ?_)
  rw [List.append_assoc]
  generalize callEnd label ++ rest = more
  generalize hname : (labelName label).toList = name at hinner
  generalize hfor : Text.quoteFor name = inner at hinner
  rw [Text.quotedChars, hfor, List.flatMap_cons, List.flatMap_append, List.flatMap_assoc]
  rcases escapeChar_cases hq inner with ⟨hself, hne, -⟩ | ⟨ds, hds, -⟩
  · rcases flatMap_escapeTwice hinner hq name with ⟨-, hall⟩ | ⟨before, after, hwritten, hbefore⟩
    · refine absurd (fits_of_quoteFor hq ?_ fun c hc => ?_) h
      · rwa [hname, hfor]
      · rw [hname] at hc ⊢
        obtain ⟨hself, -, hne, -⟩ := hall c hc
        exact ⟨hfor.symm ▸ hself, hne⟩
    · have hmore : name.flatMap (fun c => (Text.escapeChar inner c).flatMap (Text.escapeChar quote))
          = before ++ '\\' :: after := hwritten
      have hcut : ∀ ds, (before ++ '\\' :: ds).take 2 ≠ [inner, inner] := by
        intro ds
        cases before with
        | nil => simpa using fun heq => absurd heq.symm (ne_backslash_of_isQuote hinner)
        | cons c before => simpa using fun heq => absurd heq (hbefore c (by simp)).1
      rw [hself, hmore]
      simp only [List.append_assoc, List.cons_append, List.nil_append]
      rw [fieldExpression?_quote hinner (hcut _), passes_name hbefore,
        fieldExpression?_backslash rfl, Option.map_none, Option.map_none]
  · rw [hds]
    exact fieldExpression?_backslash rfl _

def boundAmong (bound : List String) (ps : List Part) : List (List Char) :=
  (ps.filterMap Part.label?).filter fun l => bound.contains (labelName l)

section Parts

variable {quote : Char} (hq : isQuote quote = true)

include hq

theorem fieldsAre_escapeChar {c : Char} (hopen : c ≠ '\x7b') (hclose : c ≠ '\x7d') {cs : List Char}
    {r : Option (List (List Char))} (h : FieldsAre cs r) :
    FieldsAre (Text.escapeChar quote c ++ cs) r := by
  have hwritten := escape_escapeChar hq c
  generalize Text.escapeChar quote c = written at hwritten
  cases hwritten with
  | none _ hbackslash _ => exact .plain hbackslash hopen hclose h
  | some hmark hdigits _ =>
    refine .escaped hmark (.plain_append (fun d hd => ?_) h)
    have hdigit := hdigits d hd
    refine ⟨ne_backslash_of_isHexDigit hdigit, ?_, ?_⟩
    · rintro rfl
      exact absurd hdigit (by decide)
    · rintro rfl
      exact absurd hdigit (by decide)

theorem fieldsAre_escapeBrace (c : Char) {cs : List Char} {r : Option (List (List Char))}
    (h : FieldsAre cs r) :
    FieldsAre ((UriTemplate.escapeBrace c).flatMap (Text.escapeChar quote) ++ cs) r := by
  have hquote := isQuote_iff.mp hq
  by_cases hbrace : c = '\x7b' ∨ c = '\x7d'
  · have hself : Text.escapeChar quote c = [c] := by
      rcases hquote with rfl | rfl <;> rcases hbrace with rfl | rfl <;> decide
    have hdouble : UriTemplate.escapeBrace c = [c, c] := by
      rw [UriTemplate.escapeBrace, if_pos (by simpa using hbrace)]
    rw [hdouble, List.flatMap_cons, List.flatMap_cons, List.flatMap_nil, hself]
    exact .doubled hbrace h
  · obtain ⟨hopen, hclose⟩ := not_or.mp hbrace
    have hsingle : UriTemplate.escapeBrace c = [c] := by
      rw [UriTemplate.escapeBrace, if_neg (by simpa using hbrace)]
    rw [hsingle, List.flatMap_cons, List.flatMap_nil, List.append_nil]
    exact fieldsAre_escapeChar hq hopen hclose h

theorem fieldsAre_escapeBraces (ds : List Char) {cs : List Char} {r : Option (List (List Char))}
    (h : FieldsAre cs r) :
    FieldsAre ((ds.flatMap UriTemplate.escapeBrace).flatMap (Text.escapeChar quote) ++ cs) r := by
  induction ds with
  | nil => exact h
  | cons d ds ih =>
    rw [List.flatMap_cons, List.flatMap_append, List.append_assoc]
    exact fieldsAre_escapeBrace hq d ih

/-- The field of a label is read, or else nothing is. -/
theorem fieldsAre_labelField (l : List Char) {cs : List Char} {r : Option (List (List Char))}
    (h : FieldsAre cs r) :
    FieldsAre ((labelField l).flatMap (Text.escapeChar quote) ++ cs)
      (do
        let expression ← field? quote l
        let others ← r
        return expression :: others) := by
  have hquote := isQuote_iff.mp hq
  have hbraces : Text.escapeChar quote '\x7b' = ['\x7b']
      ∧ Text.escapeChar quote '\x7d' = ['\x7d'] := by
    rcases hquote with rfl | rfl <;> decide
  have hhead := head?_labelCall l
  rw [labelField_eq, List.flatMap_cons, List.flatMap_append, List.flatMap_cons, List.flatMap_nil,
    hbraces.1, hbraces.2]
  simp only [List.append_assoc, List.cons_append, List.nil_append]
  unfold field?
  split_ifs with hfits
  · obtain ⟨rfl, htext, hclean⟩ := id hfits
    have hself : (labelCall l).toList.flatMap (Text.escapeChar '"') = (labelCall l).toList := by
      have hname : (Text.quotedChars (labelName l).toList).flatMap (Text.escapeChar '"')
          = Text.quotedChars (labelName l).toList := by
        have hsingle : Text.escapeChar '"' '\'' = ['\''] := by decide
        rw [quotedChars_of_isFieldText htext, List.flatMap_cons, List.flatMap_append,
          flatMap_eq_self fun c hc => escapeChar_of_isFieldText htext hclean hc,
          List.flatMap_cons, hsingle]
        rfl
      rw [flatMap_escapeChar_labelCall hq, hname, ← toList_labelCall]
    rw [hself]
    have hfield := h.field hhead (fieldExpression?_of_fits hfits cs)
    cases r <;> exact hfield
  · refine .unread ?_ (fieldExpression?_of_not_fits hq hfits _)
    rw [flatMap_escapeChar_labelCall hq]
    rfl

theorem fieldsAre_parts (bound : List String) (ps : List Part) :
    FieldsAre ((ps.flatMap (Part.written bound)).flatMap (Text.escapeChar quote))
      ((boundAmong bound ps).mapM (field? quote)) := by
  induction ps with
  | nil => exact .nil
  | cons p ps ih =>
    rw [List.flatMap_cons, List.flatMap_append]
    cases p with
    | char c => exact fieldsAre_escapeBrace hq c ih
    | label l =>
      rw [Part.written, boundAmong, List.filterMap_cons_some (f := Part.label?) rfl,
        List.filter_cons]
      split_ifs with hbound
      · rw [List.mapM_cons]
        exact fieldsAre_labelField hq l ih
      · exact fieldsAre_escapeBraces hq _ ih

end Parts

theorem mem_labelName_iff {c : Char} (hc : c ≠ '+') (label : List Char) :
    c ∈ (labelName label).toList ↔ c ∈ label := by
  rw [labelName, String.toList_ofList]
  refine ⟨Text.mem_dropWhileEnd, fun hmem => ?_⟩
  have hcut : label.reverse.takeWhile (· == '+') ++ label.reverse.dropWhile (· == '+')
      = label.reverse := List.takeWhile_append_dropWhile
  rw [← List.mem_reverse, ← hcut, List.mem_append] at hmem
  rcases hmem with hmark | hrest
  · have hplus : (c == '+') = true := List.all_eq_true.mp (List.all_takeWhile ..) c hmark
    exact absurd (beq_iff_eq.mp hplus) hc
  · exact List.mem_reverse.mpr hrest

theorem mem_escapeBrace {c d : Char} : d ∈ escapeBrace c ↔ d = c := by
  unfold escapeBrace
  split_ifs <;> simp

theorem quote_mem_written_iff {bound : List String} {p : Part}
    (h : ∀ l ∈ p.label?, labelName l ∈ bound → isFieldText (labelName l) = true) :
    '"' ∈ p.written bound ↔ '"' ∈ p.chars := by
  have hbraces : ∀ cs : List Char, '"' ∈ cs.flatMap escapeBrace ↔ '"' ∈ cs := by
    intro cs
    simp [mem_escapeBrace]
  cases p with
  | char c => simp [Part.written, Part.chars, mem_escapeBrace]
  | label l =>
    rw [Part.written]
    split_ifs with hbound
    · have htext := h l rfl (List.contains_iff_mem.mp hbound)
      have hstart : '"' ∉ callStart := by decide
      have hend : '"' ∉ callEnd l := by
        unfold callEnd
        cases isGreedy l <;> decide
      rw [labelField_eq, toList_labelCall, quotedChars_of_isFieldText htext]
      simp [hstart, hend, mem_labelName_iff, Part.chars]
    · exact hbraces _

/-- The labels of a path with a bound name can be filled in: no double quote is in the path, and
nothing in their names takes a backslash. -/
def CanFill (uri : String) (bound : List String) : Prop :=
  ∀ l ∈ boundLabels uri bound, isFieldText (labelName l) = true ∧ '"' ∉ uri.toList

instance (uri : String) (bound : List String) : Decidable (CanFill uri bound) :=
  inferInstanceAs (Decidable (∀ l ∈ boundLabels uri bound, _))

theorem boundAmong_parts (uri : String) (bound : List String) :
    boundAmong bound (parts uri.toList) = boundLabels uri bound := by
  rw [boundAmong, filterMap_label?_parts, boundLabels]

theorem quote_mem_formatted_iff {uri : String} {bound : List String}
    (h : ∀ l ∈ boundLabels uri bound, isFieldText (labelName l) = true) :
    '"' ∈ formatted bound uri.toList ↔ '"' ∈ uri.toList := by
  have hpart : ∀ p ∈ parts uri.toList, ('"' ∈ p.written bound ↔ '"' ∈ p.chars) := by
    intro p hp
    refine quote_mem_written_iff fun l hl hbound => h l ?_
    rw [← boundAmong_parts]
    exact List.mem_filter.mpr ⟨List.mem_filterMap.mpr ⟨p, hp, hl⟩, List.contains_iff_mem.mpr hbound⟩
  have hchars := flatMap_chars_parts uri.toList
  rw [formatted_eq, List.mem_flatMap, ← hchars, List.mem_flatMap, hchars]
  exact exists_congr fun p => and_congr_right fun hp => hpart p hp

theorem apostrophe_mem_formatted {uri : String} {bound : List String} {l : List Char}
    (hl : l ∈ boundLabels uri bound) (h : isFieldText (labelName l) = true) :
    '\'' ∈ formatted bound uri.toList := by
  rw [← boundAmong_parts, boundAmong, List.mem_filter, List.mem_filterMap] at hl
  obtain ⟨⟨p, hp, hlabel⟩, hbound⟩ := hl
  have hp' : p = .label l := by
    cases p with
    | char c => cases hlabel
    | label l' => rw [Option.some.inj hlabel]
  subst hp'
  rw [formatted_eq, List.mem_flatMap]
  refine ⟨_, hp, ?_⟩
  rw [Part.written, if_pos hbound, labelField_eq, toList_labelCall, quotedChars_of_isFieldText h]
  simp

theorem fits_iff_canFill (uri : String) (bound : List String) :
    (∀ l ∈ boundLabels uri bound, Fits (Text.quoteFor (formatted bound uri.toList)) (labelName l))
      ↔ CanFill uri bound := by
  constructor
  · intro h l hl
    have htext : ∀ l ∈ boundLabels uri bound, isFieldText (labelName l) = true :=
      fun l hl => (h l hl).2.1
    obtain ⟨hquote, -, -⟩ := h l hl
    refine ⟨htext l hl, fun hmem => ?_⟩
    have hformatted := (quote_mem_formatted_iff htext).mpr hmem
    rw [Text.quoteFor, List.contains_iff_mem.mpr hformatted] at hquote
    simp at hquote
  · intro h l hl
    obtain ⟨htext, hclean⟩ := h l hl
    have hformatted : '"' ∉ formatted bound uri.toList := by
      rwa [quote_mem_formatted_iff fun l hl => (h l hl).1]
    refine ⟨?_, htext, fun hmem => hclean ?_⟩
    · simp [Text.quoteFor, hformatted, apostrophe_mem_formatted hl htext]
    · rw [mem_labelName_iff (by decide)] at hmem
      have hlabel : l ∈ labels uri.toList := (List.mem_filter.mp hl).1
      rw [← filterMap_label?_parts, List.mem_filterMap] at hlabel
      obtain ⟨p, hp, hlabel⟩ := hlabel
      rw [← flatMap_chars_parts uri.toList, List.mem_flatMap]
      refine ⟨p, hp, ?_⟩
      cases p with
      | char c => cases hlabel
      | label l' =>
        obtain rfl := Option.some.inj hlabel
        simp [Part.chars, hmem]

theorem mapM_field? (quote : Char) (ls : List (List Char)) :
    ls.mapM (field? quote)
      = if ∀ l ∈ ls, Fits quote (labelName l) then some (ls.map fun l => (labelCall l).toList)
        else none := by
  split_ifs with hfits
  · exact Outcome.mapM_eq_some_map fun l hl => if_pos (hfits l hl)
  · obtain ⟨l, hl, hmisfit⟩ : ∃ l ∈ ls, ¬ Fits quote (labelName l) := by
      by_contra hall
      exact hfits fun l hl => by_contra fun hmisfit => hall ⟨l, hl, hmisfit⟩
    exact Outcome.mapM_eq_none_of_mem hl (if_neg hmisfit)

/-- The labels that a text fills in, where the text is a literal with no expressions but those of
labels. -/
def filledLabels? (cs : List Char) : Option (List (String × Bool)) := do
  (← literalExpressions? cs).mapM fun e => labelOf? (symbols e)

/-- The expression of a path fills in its bound labels if these can be filled in, and else it is no
literal. -/
theorem filledLabels?_pathExpression (uri : String) (bound : List String) :
    filledLabels? (pathExpression uri bound).toList
      = if CanFill uri bound then
          some ((boundLabels uri bound).map fun l => (labelName l, isGreedy l))
        else none := by
  by_cases hany : (params uri).any bound.contains = true
  · have hexpression : (pathExpression uri bound).toList
        = 'f' :: Text.quotedChars (formatted bound uri.toList) := by
      rw [pathExpression, if_pos hany, String.toList_append, Text.quoted, String.toList_ofList,
        String.toList_ofList, String.toList_ofList]
      rfl
    have hq := isQuote_quoteFor (formatted bound uri.toList)
    have hfields := (fieldsAre_parts hq bound (parts uri.toList)).fields?_eq
    rw [← formatted_eq, boundAmong_parts, mapM_field?,
      if_congr (fits_iff_canFill uri bound) rfl rfl] at hfields
    rw [filledLabels?, hexpression, literalExpressions?_formatted, hfields]
    split_ifs with hfill
    · exact mapM_labelOf?_labelCall (boundLabels uri bound)
    · rfl
  · have hnone : boundLabels uri bound = [] := by
      rw [← List.map_eq_nil_iff (f := labelName), map_labelName_boundLabels,
        List.filter_eq_nil_iff]
      simpa using hany
    have hexpression : (pathExpression uri bound).toList = Text.quotedChars uri.toList := by
      rw [pathExpression, if_neg hany, Text.quoted, String.toList_ofList]
    have hfill : CanFill uri bound := by
      rw [CanFill, hnone]
      simp
    rw [filledLabels?, hexpression, literalExpressions?_quotedChars, if_pos hfill, hnone]
    rfl

end UriTemplate

end SmithyGen
