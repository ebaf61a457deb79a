import Mathlib.Data.List.Chain
import SmithyGen.Proofs.Symbol
import SmithyGen.Proofs.Text
import SmithyGen.Text.WordChar
import SmithyGen.Value.Literal

namespace SmithyGen.Code

/-- Where a reader of a line stands: in its code, inside of a literal, or after a backslash in one.
-/
inductive Reading where
  | code
  | within (quote : Char)
  | escaped (quote : Char)
deriving DecidableEq, Repr

namespace Reading

def next : Reading → Char → Reading
  | .code, c => if isQuote c then .within c else .code
  | .within q, c => if c == q then .code else if c == '\\' then .escaped q else .within q
  | .escaped q, _ => .within q

def keeps : Reading → Char → Bool
  | .code, _ => true
  | .within q, c => c == q
  | .escaped _, _ => false

end Reading

def codeFrom : Reading → List Char → List Char
  | _, [] => []
  | r, c :: cs => if r.keeps c then c :: codeFrom (r.next c) cs else codeFrom (r.next c) cs

def codeOf (cs : List Char) : List Char := codeFrom .code cs

/-- What goes on with a name: the characters of words, and the point before an attribute. -/
def isNamePart (c : Char) : Bool := Text.isWord c || c == '.'

/-- The name stands in the code of the line as a word of its own. -/
def Names (name line : String) : Prop :=
  ∃ front back, codeOf line.toList = front ++ (name.toList ++ back)
    ∧ (∀ c ∈ front.getLast?, isNamePart c = false) ∧ ∀ c ∈ back.head?, Text.isWord c = false

/-- The function of the name is called in the code of the line. -/
def Calls (name line : String) : Prop :=
  ∃ front back, codeOf line.toList = front ++ (name.toList ++ '(' :: back)
    ∧ ∀ c ∈ front.getLast?, isNamePart c = false

/-- Text that ends in code again if it starts there. -/
def Complete (cs : List Char) : Prop := ∀ rest, codeOf (cs ++ rest) = codeOf cs ++ codeOf rest

namespace Complete

theorem nil : Complete [] := fun _ => rfl

theorem append {cs cs' : List Char} (h : Complete cs) (h' : Complete cs') : Complete (cs ++ cs') := by
  intro rest
  rw [List.append_assoc, h, h', h, List.append_assoc]

end Complete

section Literals

variable {cs : List Char} {q : Char}

theorem codeOf_append_of_plain (h : ∀ c ∈ cs, isQuote c = false) (rest : List Char) :
    codeOf (cs ++ rest) = cs ++ codeOf rest := by
  induction cs with
  | nil => rfl
  | cons c cs ih =>
    have hc := h c (by simp)
    have hrest := ih fun d hd => h d (List.mem_cons_of_mem c hd)
    simp only [codeOf] at hrest ⊢
    simp [codeFrom, Reading.keeps, Reading.next, hc, hrest]

theorem codeOf_of_plain (h : ∀ c ∈ cs, isQuote c = false) : codeOf cs = cs := by
  have hcode := codeOf_append_of_plain h []
  rwa [List.append_nil, show codeOf [] = [] from rfl, List.append_nil] at hcode

theorem Complete.of_plain (h : ∀ c ∈ cs, isQuote c = false) : Complete cs := by
  intro rest
  rw [codeOf_append_of_plain h, codeOf_of_plain h]

theorem codeFrom_within (h : ∀ c ∈ cs, c ≠ q ∧ c ≠ '\\') (rest : List Char) :
    codeFrom (.within q) (cs ++ rest) = codeFrom (.within q) rest := by
  induction cs with
  | nil => rfl
  | cons c cs ih =>
    obtain ⟨hquote, hslash⟩ := h c (by simp)
    have hrest := ih fun d hd => h d (List.mem_cons_of_mem c hd)
    simp [codeFrom, Reading.keeps, Reading.next, hquote, hslash, hrest]

theorem codeFrom_escape (hq : isQuote q = true) (c : Char) (rest : List Char) :
    codeFrom (.within q) ('\\' :: c :: rest) = codeFrom (.within q) rest := by
  have hslash : '\\' ≠ q := by
    rintro rfl
    exact absurd hq (by decide)
  simp [codeFrom, Reading.keeps, Reading.next, hslash]

/-- A character of a literal stands for nothing outside of it. -/
theorem codeFrom_escapeChar (hq : isQuote q = true) (c : Char) (rest : List Char) :
    codeFrom (.within q) (Text.escapeChar q c ++ rest) = codeFrom (.within q) rest := by
  -- The digits of an escape neither end the literal nor escape what follows them.
  have hhex (width n : Nat) : ∀ d ∈ Text.hexDigits width n, d ≠ q ∧ d ≠ '\\' := by
    intro d hd
    have hdigit : isHexDigit d = true := by
      rcases List.mem_append.mp hd with hd | hd
      · rw [List.eq_of_mem_replicate hd]
        rfl
      · exact isHexDigit_of_mem_toDigits hd
    refine ⟨?_, ?_⟩
    · rintro rfl
      rcases Bool.or_eq_true_iff.mp hq with hd | hd <;> rw [beq_iff_eq.mp hd] at hdigit
        <;> exact absurd hdigit (by decide)
    · rintro rfl
      exact absurd hdigit (by decide)
  have hcode (mark : Char) (width n : Nat) :
      codeFrom (.within q) ('\\' :: mark :: Text.hexDigits width n ++ rest)
        = codeFrom (.within q) rest := by
    rw [List.cons_append, List.cons_append, codeFrom_escape hq, codeFrom_within (hhex width n)]
  unfold Text.escapeChar
  split_ifs with hself hn hr ht hprintable
  · exact codeFrom_escape hq c rest
  · exact codeFrom_escape hq 'n' rest
  · exact codeFrom_escape hq 'r' rest
  · exact codeFrom_escape hq 't' rest
  · simp only [Bool.or_eq_true, beq_iff_eq, not_or] at hself
    exact codeFrom_within (by simpa using hself) rest
  · unfold Text.escapeCode
    split_ifs
    · exact hcode 'x' 2 c.toNat
    · exact hcode 'u' 4 c.toNat
    · exact hcode 'U' 8 c.toNat

theorem codeOf_quotedChars_append (cs rest : List Char) :
    codeOf (Text.quotedChars cs ++ rest)
      = Text.quoteFor cs :: Text.quoteFor cs :: codeOf rest := by
  have hq : isQuote (Text.quoteFor cs) = true := isQuote_quoteFor cs
  have hbody (text : List Char) :
      codeFrom (.within (Text.quoteFor cs))
          (text.flatMap (Text.escapeChar (Text.quoteFor cs)) ++ (Text.quoteFor cs :: rest))
        = Text.quoteFor cs :: codeOf rest := by
    induction text with
    | nil => simp [codeFrom, Reading.keeps, Reading.next, codeOf]
    | cons c text ih => rw [List.flatMap_cons, List.append_assoc, codeFrom_escapeChar hq, ih]
  have hopen : codeOf (Text.quoteFor cs
        :: (cs.flatMap (Text.escapeChar (Text.quoteFor cs)) ++ (Text.quoteFor cs :: rest)))
      = Text.quoteFor cs :: codeFrom (.within (Text.quoteFor cs))
          (cs.flatMap (Text.escapeChar (Text.quoteFor cs)) ++ (Text.quoteFor cs :: rest)) := by
    simp [codeOf, codeFrom, Reading.keeps, Reading.next, hq]
  rw [Text.quotedChars]
  simp only [List.cons_append, List.append_assoc, List.nil_append]
  rw [hopen, hbody]

theorem codeOf_quotedChars (cs : List Char) :
    codeOf (Text.quotedChars cs) = [Text.quoteFor cs, Text.quoteFor cs] := by
  simpa [codeOf, codeFrom] using codeOf_quotedChars_append cs []

theorem Complete.quotedChars (cs : List Char) : Complete (Text.quotedChars cs) := by
  intro rest
  rw [codeOf_quotedChars_append, codeOf_quotedChars]
  rfl

end Literals

/-- Complete text without a character in its code. -/
structure Lacks (x : Char) (cs : List Char) : Prop where
  complete : Complete cs
  not_mem : x ∉ codeOf cs

namespace Lacks

variable {x : Char} {cs cs' : List Char}

theorem nil : Lacks x [] := ⟨.nil, by simp [codeOf, codeFrom]⟩

theorem append (h : Lacks x cs) (h' : Lacks x cs') : Lacks x (cs ++ cs') := by
  refine ⟨h.complete.append h'.complete, fun hmem => ?_⟩
  rw [h.complete, List.mem_append] at hmem
  exact hmem.elim h.not_mem h'.not_mem

theorem of_plain (h : cs.all (fun c => !isQuote c && c != x) = true) : Lacks x cs := by
  have hboth : ∀ c ∈ cs, isQuote c = false ∧ c ≠ x := by simpa using h
  have hplain : ∀ c ∈ cs, isQuote c = false := fun c hc => (hboth c hc).1
  refine ⟨.of_plain hplain, fun hmem => ?_⟩
  rw [codeOf_of_plain hplain] at hmem
  exact (hboth x hmem).2 rfl

theorem quoted (hx : isQuote x = false) (s : String) : Lacks x (Text.quoted s).toList := by
  rw [Text.quoted, String.toList_ofList]
  refine ⟨.quotedChars _, fun hmem => ?_⟩
  have hq := isQuote_quoteFor s.toList
  rw [codeOf_quotedChars] at hmem
  rw [show Text.quoteFor s.toList = x by simpa [eq_comm] using hmem, hx] at hq
  cases hq

end Lacks

/-- Complete text without an `h` in its code, the letter in which a search ends. -/
abbrev Quiet : List Char → Prop := Lacks 'h'

namespace Quiet

theorem intercalate_comma {xs : List String} (h : ∀ x ∈ xs, Quiet x.toList) :
    Quiet (", ".intercalate xs).toList := by
  rw [String.toList_intercalate]
  induction xs with
  | nil => exact .nil
  | cons x xs ih =>
    have hrest := ih fun y hy => h y (List.mem_cons_of_mem x hy)
    cases xs with
    | nil => simpa using h x (by simp)
    | cons y ys =>
      rw [List.map_cons, List.map_cons, List.intercalate_cons_cons]
      exact ((h x (by simp)).append (.of_plain (by decide))).append hrest

end Quiet

section Values

def isNumberMark (c : Char) : Bool := c.isDigit || ['-', '+', '.', 'e', 'n', 'a', 'i', 'f'].contains c

theorem Quiet.of_number {cs : List Char} (h : ∀ c ∈ cs, isNumberMark c = true) : Quiet cs := by
  refine .of_plain (List.all_eq_true.mpr fun c hc => ?_)
  have hne {d : Char} (hd : isNumberMark d = false) : c ≠ d := by
    rintro rfl
    rw [h c hc] at hd
    cases hd
  simp [isQuote, hne (d := '"') rfl, hne (d := '\'') rfl, hne (d := 'h') rfl]

theorem isNumberMark_of_mem_toDigits {n : Nat} {c : Char} (h : c ∈ Nat.toDigits 10 n) :
    isNumberMark c = true := by
  simp [isNumberMark, Nat.isDigit_of_mem_toDigits (by decide) (by decide) h]

theorem isNumberMark_of_mem_positional {ds : List Char} (h : ∀ c ∈ ds, isNumberMark c = true)
    (e : Int) : ∀ c ∈ Binary64.positional ds e, isNumberMark c = true := by
  have hzero : isNumberMark '0' = true := by decide
  have hpoint : isNumberMark '.' = true := by decide
  have hzeros (k : Nat) : ∀ c ∈ List.replicate k '0', isNumberMark c = true := fun c hc => by
    rw [List.eq_of_mem_replicate hc, hzero]
  intro c hc
  unfold Binary64.positional at hc
  split_ifs at hc
  · simp only [List.mem_cons, List.mem_append] at hc
    rcases hc with rfl | rfl | hc | hc
    exacts [hzero, hpoint, hzeros _ c hc, h c hc]
  · simp only [List.mem_cons, List.mem_append] at hc
    rcases hc with (hc | hc) | rfl | hc
    · exact h c (List.mem_of_mem_take hc)
    · exact hzeros _ c hc
    · exact hpoint
    · split_ifs at hc
      · rw [List.mem_singleton.mp hc, hzero]
      · exact h c (List.mem_of_mem_drop hc)

theorem isNumberMark_of_mem_withExponent {ds : List Char} (h : ∀ c ∈ ds, isNumberMark c = true)
    (e : Int) : ∀ c ∈ Binary64.withExponent ds e, isNumberMark c = true := by
  have hpower : ∀ c ∈ (if (Nat.toDigits 10 e.natAbs).length < 2 then '0' :: Nat.toDigits 10 e.natAbs
      else Nat.toDigits 10 e.natAbs), isNumberMark c = true := by
    intro c hc
    split_ifs at hc
    · rcases List.mem_cons.mp hc with rfl | hc
      exacts [by decide, isNumberMark_of_mem_toDigits hc]
    · exact isNumberMark_of_mem_toDigits hc
  have hsign : isNumberMark (if e < 0 then '-' else '+') = true := by split_ifs <;> decide
  refine List.forall_mem_append.mpr ⟨?_, List.forall_mem_cons.mpr ⟨by decide,
    List.forall_mem_cons.mpr ⟨hsign, hpower⟩⟩⟩
  rcases ds with _ | ⟨d, _ | ⟨d', ds⟩⟩
  · simp
  · exact h
  · obtain ⟨hd, hds⟩ := List.forall_mem_cons.mp h
    exact List.forall_mem_cons.mpr ⟨hd, List.forall_mem_cons.mpr ⟨by decide, hds⟩⟩

theorem isNumberMark_of_mem_text (x : Binary64) : ∀ c ∈ x.text.toList, isNumberMark c = true := by
  cases x with
  | nan => exact List.all_eq_true.mp (by rfl)
  | infinite negative => cases negative <;> exact List.all_eq_true.mp (by rfl)
  | finite negative m q =>
    intro c hc
    have hshortest : ∀ c ∈ (if m == 0 then (['0'], 0) else Binary64.shortest m q).1,
        isNumberMark c = true := by
      intro c hc
      split_ifs at hc
      · rw [List.mem_singleton.mp hc]
        decide
      · exact isNumberMark_of_mem_toDigits (Text.mem_dropWhileEnd hc)
    rw [Binary64.text, String.toList_ofList] at hc
    generalize (if m == 0 then (['0'], (0 : Int)) else Binary64.shortest m q) = found at hc hshortest
    rcases List.mem_append.mp hc with hc | hc
    · split_ifs at hc
      · rw [List.mem_singleton.mp hc]
        decide
      · cases hc
    · split_ifs at hc
      · exact isNumberMark_of_mem_positional hshortest _ c hc
      · exact isNumberMark_of_mem_withExponent hshortest _ c hc

theorem isNumberMark_of_mem_toString {n : Int} {c : Char} (h : c ∈ (toString n).toList) :
    isNumberMark c = true := by
  rcases Number.toList_toString_cases n with ⟨hchars, -⟩ | ⟨hchars, -⟩
    <;> rw [hchars] at h
  · exact isNumberMark_of_mem_toDigits h
  · rcases List.mem_cons.mp h with rfl | h
    exacts [by decide, isNumberMark_of_mem_toDigits h]

theorem Quiet.tuple {xs : List String} (h : ∀ x ∈ xs, Quiet x.toList) :
    Quiet (Value.tuple xs).toList := by
  have hinner := Quiet.intercalate_comma h
  have hopen : Quiet ['('] := .of_plain (by decide)
  have hclose : Quiet [')'] := .of_plain (by decide)
  have hsingle : Quiet [',', ')'] := .of_plain (by decide)
  unfold Value.tuple
  split
  · simpa using (hopen.append (h _ (by simp))).append hsingle
  · simpa using (hopen.append hinner).append hclose

theorem Quiet.items {xs : List String} (h : ∀ x ∈ xs, Quiet x.toList) (form : Value.Form) :
    Quiet (form.list xs).toList := by
  cases form with
  | plain =>
    have hopen : Quiet ['['] := .of_plain (by decide)
    have hclose : Quiet [']'] := .of_plain (by decide)
    simpa [Value.Form.list] using (hopen.append (Quiet.intercalate_comma h)).append hclose
  | sealed => exact .tuple h

theorem Quiet.fields {xs : List String} (h : ∀ x ∈ xs, Quiet x.toList) (form : Value.Form) :
    Quiet (form.map xs).toList := by
  have hinner := Quiet.intercalate_comma h
  cases form with
  | plain =>
    have hopen : Quiet ['\x7b'] := .of_plain (by decide)
    have hclose : Quiet ['\x7d'] := .of_plain (by decide)
    change Quiet ("\x7b" ++ ", ".intercalate xs ++ "\x7d").toList
    rw [String.toList_append, String.toList_append]
    exact (hopen.append hinner).append hclose
  | sealed =>
    have hopen : Quiet "mappingproxy(\x7b".toList := .of_plain (by decide)
    have hclose : Quiet "\x7d)".toList := .of_plain (by decide)
    change Quiet ("mappingproxy(\x7b" ++ ", ".intercalate xs ++ "\x7d)").toList
    rw [String.toList_append, String.toList_append]
    exact (hopen.append hinner).append hclose

mutual

theorem Quiet.literal (form : Value.Form) : (v : Value) → Quiet (v.literal form).toList
  | .null => .of_plain (by simp [Value.literal]; decide)
  | .bool b => by cases b <;> exact .of_plain (by simp [Value.literal]; decide)
  | .int _ => .of_number fun _ => isNumberMark_of_mem_toString
  | .float x => .of_number (isNumberMark_of_mem_text x)
  | .str s => .quoted (by rfl) s
  | .list xs => .items (Quiet.literals form xs) form
  | .map es => .fields (Quiet.fieldLiterals form es) form
termination_by structural v => v

theorem Quiet.literals (form : Value.Form) :
    (vs : List Value) → ∀ x ∈ Value.literals form vs, Quiet x.toList
  | [], _, hx => by cases hx
  | v :: vs, x, hx => by
    rcases List.mem_cons.mp hx with rfl | hx
    · exact Quiet.literal form v
    · exact Quiet.literals form vs x hx
termination_by structural vs => vs

theorem Quiet.fieldLiterals (form : Value.Form) :
    (es : List (String × Value)) → ∀ x ∈ Value.fieldLiterals form es, Quiet x.toList
  | [], _, hx => by cases hx
  | (k, v) :: es, x, hx => by
    rcases List.mem_cons.mp hx with rfl | hx
    · have hcolon : Quiet [':', ' '] := .of_plain (by decide)
      simpa using ((Lacks.quoted (by rfl) k).append hcolon).append (Quiet.literal form v)
    · exact Quiet.fieldLiterals form es x hx
termination_by structural es => es

end

/-- As running text only a text can hold a call. -/
theorem Quiet.display (form : Value.Form) {v : Value} (h : ∀ s, v ≠ .str s) :
    Quiet (v.display form).toList := by
  cases v with
  | str s => exact absurd rfl (h s)
  | map es => exact .fields (Quiet.fieldLiterals form es) .plain
  | _ => exact Quiet.literal form _

end Values

section Calls

/-- Complete text in whose code no parenthesis opens right after an `h`. -/
structure Calm (cs : List Char) : Prop where
  complete : Complete cs
  isChain : (codeOf cs).IsChain fun c d => ¬(c = 'h' ∧ d = '(')

theorem head?_codeOf (cs : List Char) : (codeOf cs).head? = cs.head? := by
  cases cs <;> simp [codeOf, codeFrom, Reading.keeps]

theorem isChain_of_not_mem {cs : List Char} (h : 'h' ∉ cs ∨ '(' ∉ cs) :
    cs.IsChain fun c d => ¬(c = 'h' ∧ d = '(') := by
  induction cs with
  | nil => exact .nil
  | cons c cs ih =>
    simp only [List.mem_cons, not_or] at h
    refine List.isChain_cons.mpr ⟨fun d hd => ?_, ih (h.imp And.right And.right)⟩
    rintro ⟨rfl, rfl⟩
    exact h.elim (fun h => h.1 rfl) fun h => h.2 (List.mem_of_mem_head? hd)

namespace Calm

variable {cs cs' : List Char}

theorem of_quiet (h : Quiet cs) : Calm cs := ⟨h.complete, isChain_of_not_mem (Or.inl h.not_mem)⟩

theorem word_append (hcs : ∀ c ∈ cs, isQuote c = false ∧ c ≠ '(') (h' : Calm cs')
    (hhead : cs'.head? ≠ some '(') : Calm (cs ++ cs') := by
  have hplain : ∀ c ∈ cs, isQuote c = false := fun c hc => (hcs c hc).1
  refine ⟨(Complete.of_plain hplain).append h'.complete, ?_⟩
  rw [codeOf_append_of_plain hplain]
  refine List.isChain_append.mpr ⟨isChain_of_not_mem (Or.inr fun hc => (hcs _ hc).2 rfl),
    h'.isChain, ?_⟩
  rintro c - d hd ⟨-, rfl⟩
  rw [head?_codeOf] at hd
  exact hhead hd

theorem quiet_append (h : Quiet cs) (h' : Calm cs') : Calm (cs ++ cs') := by
  refine ⟨h.complete.append h'.complete, ?_⟩
  rw [h.complete]
  refine List.isChain_append.mpr ⟨isChain_of_not_mem (Or.inl h.not_mem), h'.isChain, ?_⟩
  rintro c hc d - ⟨rfl, -⟩
  exact h.not_mem (List.mem_of_mem_getLast? hc)

end Calm

/-- The bound of a constraint is calm, as a text where it has no quote and no parenthesis. -/
theorem Calm.display_append {v : Value} {cs : List Char}
    (hv : ∀ t, v = .str t → ∀ c ∈ t.toList, isQuote c = false ∧ c ≠ '(') (h : Calm cs)
    (hhead : cs.head? ≠ some '(') : Calm ((v.display .sealed).toList ++ cs) := by
  cases v with
  | str t => exact .word_append (hv t rfl) h hhead
  | _ => exact .quiet_append (Quiet.display .sealed (by simp)) h

theorem not_calls_of_isChain {cs : List Char}
    (h : (codeOf cs).IsChain fun c d => ¬(c = 'h' ∧ d = '(')) {name : String}
    (hname : name.toList.getLast? = some 'h') : ¬Calls name (String.ofList cs) := by
  rintro ⟨front, back, hcode, -⟩
  rw [String.toList_ofList] at hcode
  rw [hcode] at h
  -- A call puts the parenthesis right after the last letter of the name.
  have hjoint := (List.isChain_append.mp (List.isChain_append.mp h).2.1).2.2
  exact hjoint 'h' hname '(' rfl ⟨rfl, rfl⟩

theorem not_names_of_not_mem {name line : String} {c : Char} (hc : c ∈ name.toList)
    (h : c ∉ codeOf line.toList) : ¬Names name line := by
  rintro ⟨front, back, hcode, -⟩
  exact h (by simp [hcode, hc])

theorem not_calls_of_not_mem {name line : String} {c : Char} (hc : c ∈ name.toList)
    (h : c ∉ codeOf line.toList) : ¬Calls name line := by
  rintro ⟨front, back, hcode, -⟩
  exact h (by simp [hcode, hc])

structure Opens (cs : List Char) : Prop where
  complete : Complete cs
  last : ∀ c ∈ (codeOf cs).getLast?, isNamePart c = false

theorem Opens.nil : Opens [] := ⟨.nil, by simp [codeOf, codeFrom]⟩

def hasNoQuote (cs : List Char) : Bool := cs.all fun c => !isQuote c

theorem of_hasNoQuote {cs : List Char} (h : hasNoQuote cs = true) : ∀ c ∈ cs, isQuote c = false := by
  simpa [hasNoQuote] using h

theorem Opens.append {cs mark : List Char} (h : Complete cs) (hmark : hasNoQuote mark = true)
    {d : Char} (hd : mark.getLast? = some d) (hpart : isNamePart d = false) : Opens (cs ++ mark) := by
  have hplain := of_hasNoQuote hmark
  refine ⟨h.append (.of_plain hplain), ?_⟩
  rw [h, codeOf_of_plain hplain, List.getLast?_append, hd]
  simpa using hpart

variable {front back : List Char} {name line : String}

theorem Opens.calls (h : Opens front) (hname : hasNoQuote name.toList = true)
    (hline : line.toList = front ++ (name.toList ++ '(' :: back)) : Calls name line := by
  have hparen : ∀ c ∈ ['('], isQuote c = false := of_hasNoQuote (by rfl)
  refine ⟨codeOf front, codeOf back, ?_, h.last⟩
  rw [hline, h.complete, codeOf_append_of_plain (of_hasNoQuote hname)]
  exact congrArg (fun cs => codeOf front ++ (name.toList ++ cs)) (codeOf_append_of_plain hparen back)

theorem Opens.names (h : Opens front) (hname : hasNoQuote name.toList = true)
    (hline : line.toList = front ++ (name.toList ++ back))
    (hback : ∀ c ∈ back.head?, Text.isWord c = false) : Names name line := by
  refine ⟨codeOf front, codeOf back, ?_, h.last, by rwa [head?_codeOf]⟩
  rw [hline, h.complete, codeOf_append_of_plain (of_hasNoQuote hname)]

end Calls

end SmithyGen.Code
