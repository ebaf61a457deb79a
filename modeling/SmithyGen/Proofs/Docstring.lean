import Mathlib.Data.List.Basic
import Mathlib.Data.Option.Basic
import Mathlib.Tactic.SplitIfs
import SmithyGen.Code.Token
import SmithyGen.Document.Docstring
import SmithyGen.Proofs.Text

namespace SmithyGen.Docstring

open Code

/-- What may stand between the quotes of a literal: no three quotes without a backslash in a row.
`n` of them stand right before the text, and it ends in `m`. -/
inductive Body (m : Nat) : (n : Nat) → List Char → Prop
  | nil : Body m m []
  | escape {n : Nat} {c : Char} {cs : List Char} (hc : c = '\\' ∨ c = '"') (h : Body m 0 cs) :
      Body m n ('\\' :: c :: cs)
  | quote {n : Nat} {cs : List Char} (hn : n < 2) (h : Body m (n + 1) cs) : Body m n ('"' :: cs)
  | plain {n : Nat} {c : Char} {cs : List Char} (hc : c ≠ '\\' ∧ c ≠ '"') (h : Body m 0 cs) :
      Body m n (c :: cs)

theorem Body.append {k m n : Nat} {cs ds : List Char} (h : Body k n cs) (h' : Body m k ds) :
    Body m n (cs ++ ds) := by
  induction h with
  | nil => exact h'
  | escape hc _ ih => exact .escape hc ih
  | quote hn _ ih => exact .quote hn ih
  | plain hc _ ih => exact .plain hc ih

theorem Body.of_quotes {m n : Nat} (h : n + m ≤ 2) : Body (n + m) n (List.replicate m '"') := by
  induction m generalizing n with
  | zero => exact .nil
  | succ m ih =>
    have hrest : Body (n + 1 + m) (n + 1) (List.replicate m '"') := ih (by omega)
    rw [Nat.add_assoc, Nat.add_comm 1 m] at hrest
    exact .quote (by omega) hrest

/-- A backslash before the last quote escapes it, unless one stands there already; then the two are
an escape, and the quote is free. -/
theorem Body.escape_last {m n : Nat} {cs : List Char} (h : Body m n (cs ++ ['"'])) :
    Body (if m = 0 then 1 else 0) n (cs ++ ['\\', '"']) := by
  generalize hl : cs ++ ['"'] = l at h
  -- The last quote is met in the clause of an escape or in that of a free quote, which decides.
  induction h generalizing cs with
  | nil => simp at hl
  | @escape n c l hc hbody ih =>
    match cs, hl with
    | [d], hl =>
      obtain ⟨rfl, rfl, rfl⟩ : d = '\\' ∧ '"' = c ∧ [] = l := by simpa using hl
      cases hbody
      exact .escape (Or.inl rfl) (.quote (by decide) .nil)
    | d :: e :: cs, hl =>
      obtain ⟨rfl, rfl, htail⟩ : d = '\\' ∧ e = c ∧ cs ++ ['"'] = l := by simpa using hl
      exact .escape hc (ih htail)
  | @quote n l hn hbody ih =>
    match cs, hl with
    | [], hl =>
      obtain rfl : [] = l := by simpa using hl
      cases hbody
      exact .escape (Or.inr rfl) .nil
    | d :: cs, hl =>
      obtain ⟨rfl, htail⟩ : d = '"' ∧ cs ++ ['"'] = l := by simpa using hl
      exact .quote hn (ih htail)
  | @plain n c l hc hbody ih =>
    match cs, hl with
    | [], hl => exact absurd (List.cons.inj hl).1.symm hc.2
    | d :: cs, hl =>
      obtain ⟨rfl, htail⟩ : d = c ∧ cs ++ ['"'] = l := by simpa using hl
      exact .plain hc (ih htail)

theorem longBody?_cons {quote c : Char} (hc : c ≠ '\\') {cs : List Char}
    (h : c = quote → cs.take 2 ≠ [quote, quote]) :
    longBody? quote (c :: cs) = (longBody? quote cs).map fun (body, rest) => (c :: body, rest) := by
  have hclose : (c == quote && cs.take 2 == [quote, quote]) = false := by
    by_cases he : c = quote
    · simpa [he] using h he
    · simp [he]
  rw [longBody?, hclose]
  · rfl
  · intro _ _ he
    exact absurd he hc

theorem longBody?_quotes {n : Nat} (hn : n ≤ 2) {c : Char} (hc : c ≠ '"') (cs : List Char) :
    longBody? '"' (List.replicate n '"' ++ c :: cs)
      = (longBody? '"' (c :: cs)).map fun (body, rest) => (List.replicate n '"' ++ body, rest) := by
  induction n with
  | zero => simp
  | succ n ih =>
    have htake : (List.replicate n '"' ++ c :: cs).take 2 ≠ ['"', '"'] := by
      obtain rfl | rfl : n = 0 ∨ n = 1 := by omega
      · simp [hc]
      · simp [hc]
    rw [List.replicate_succ, List.cons_append, longBody?_cons (by decide) fun _ => htake,
      ih (by omega), Option.map_map]
    rfl

theorem Body.longBody?_eq {n : Nat} (hn : n ≤ 2) {cs : List Char} (h : Body 0 n cs)
    (rest : List Char) :
    longBody? '"' (List.replicate n '"' ++ (cs ++ (tripleQuote ++ rest)))
      = some (List.replicate n '"' ++ cs, rest) := by
  induction h with
  | nil => simp [longBody?, tripleQuote]
  | @escape n c cs _ _ ih =>
    have hbody := ih (Nat.zero_le 2)
    rw [List.replicate_zero, List.nil_append, List.nil_append] at hbody
    rw [List.cons_append, List.cons_append, longBody?_quotes hn (by decide), longBody?, hbody]
    rfl
  | @quote n cs hn' _ ih =>
    have hbody := ih hn'
    simpa [List.replicate_succ', List.append_assoc] using hbody
  | @plain n c cs hc _ ih =>
    have hbody := ih (Nat.zero_le 2)
    rw [List.replicate_zero, List.nil_append, List.nil_append] at hbody
    rw [List.cons_append, longBody?_quotes hn hc.2, longBody?_cons hc.1 fun he => absurd he hc.2,
      hbody]
    rfl

theorem Body.hasSoundEscapes {m n : Nat} {cs : List Char} (h : Body m n cs) :
    hasSoundEscapes false cs = true := by
  induction h with
  | nil => rfl
  | escape hc _ ih =>
    rcases hc with rfl | rfl
    · exact ih
    · exact ih
  | quote _ _ ih => exact ih
  | @plain n c cs hc _ ih =>
    unfold Code.hasSoundEscapes
    split <;> simp_all

/-- The literal that a body makes is one token. -/
theorem Body.token?_eq {cs : List Char} (h : Body 0 0 cs) (rest : List Char) :
    token? (tripleQuote ++ (cs ++ (tripleQuote ++ rest))) = some (.text false [], rest) := by
  have hbody := h.longBody?_eq (Nat.zero_le 2) rest
  rw [List.replicate_zero, List.nil_append, List.nil_append] at hbody
  have hliteral : literalBody? (tripleQuote ++ (cs ++ (tripleQuote ++ rest))) = some (cs, rest) :=
    hbody
  have hfields : literalFields? {} cs = some [] := by
    simp [literalFields?, h.hasSoundEscapes]
  have htoken : token? (tripleQuote ++ (cs ++ (tripleQuote ++ rest)))
      = literal? {} (tripleQuote ++ (cs ++ (tripleQuote ++ rest))) := rfl
  rw [htoken, literal?, hliteral]
  simp [hfields]

def escapedQuotes : List Char := ['\\', '"', '\\', '"', '\\', '"']

/-- The escaped text after `n` quotes that are held back, since a third one escapes them all. -/
def escapeFrom : (n : Nat) → List Char → List Char
  | n, [] => List.replicate n '"'
  | n, c :: cs =>
    if c = '"' then if n = 2 then escapedQuotes ++ escapeFrom 0 cs else escapeFrom (n + 1) cs
    else List.replicate n '"' ++ (doubleBackslash c ++ escapeFrom 0 cs)

theorem doubleBackslash_cases (c : Char) :
    c = '\\' ∧ doubleBackslash c = ['\\', '\\'] ∨ c ≠ '\\' ∧ doubleBackslash c = [c] := by
  by_cases hc : c = '\\'
  · exact Or.inl ⟨hc, by simp [doubleBackslash, hc]⟩
  · exact Or.inr ⟨hc, by simp [doubleBackslash, hc]⟩

theorem replace_of_ne {c : Char} (hc : c ≠ '"') (new cs : List Char) :
    Text.replace tripleQuote new (c :: cs) = c :: Text.replace tripleQuote new cs := by
  refine Text.replace_cons ?_ new
  rintro ⟨t, ht⟩
  exact hc (List.cons.inj ht).1.symm

theorem replace_tripleQuote (new cs : List Char) :
    Text.replace tripleQuote new (tripleQuote ++ cs) = new ++ Text.replace tripleQuote new cs :=
  Text.replace_append (List.cons_ne_nil _ _) new cs

theorem replace_quotes {n : Nat} (hn : n ≤ 2) {cs : List Char} (hcs : cs.head? ≠ some '"')
    (new : List Char) :
    Text.replace tripleQuote new (List.replicate n '"' ++ cs)
      = List.replicate n '"' ++ Text.replace tripleQuote new cs := by
  induction n with
  | zero => rfl
  | succ n ih =>
    have hthree : ¬ tripleQuote <+: '"' :: (List.replicate n '"' ++ cs) := by
      rintro ⟨t, ht⟩
      obtain rfl | rfl : n = 0 ∨ n = 1 := by omega
      · obtain rfl : '"' :: '"' :: t = cs := (List.cons.inj ht).2
        exact hcs rfl
      · obtain rfl : '"' :: t = cs := (List.cons.inj (List.cons.inj ht).2).2
        exact hcs rfl
    rw [List.replicate_succ, List.cons_append, Text.replace_cons hthree, ih (by omega),
      List.cons_append]

theorem replicate_append_quote (n : Nat) (cs : List Char) :
    List.replicate n '"' ++ '"' :: cs = List.replicate (n + 1) '"' ++ cs := by
  rw [List.replicate_succ', List.append_assoc, List.singleton_append]

theorem replace_eq_escapeFrom {n : Nat} (hn : n ≤ 2) (cs : List Char) :
    Text.replace tripleQuote escapedQuotes (List.replicate n '"' ++ cs.flatMap doubleBackslash)
      = escapeFrom n cs := by
  induction cs generalizing n with
  | nil =>
    rw [List.flatMap_nil, replace_quotes hn (by simp)]
    simp [Text.replace, Text.replaceFrom, escapeFrom]
  | cons c cs ih =>
    rw [List.flatMap_cons, escapeFrom]
    by_cases hc : c = '"'
    · subst hc
      rw [if_pos rfl, doubleBackslash, if_neg (by decide), List.singleton_append,
        replicate_append_quote]
      split_ifs with htwo
      · subst htwo
        exact (replace_tripleQuote _ _).trans (congrArg _ (ih (Nat.zero_le 2)))
      · exact ih (by omega)
    · have hrest := ih (Nat.zero_le 2)
      rw [List.replicate_zero, List.nil_append] at hrest
      rw [if_neg hc]
      rcases doubleBackslash_cases c with ⟨rfl, hdouble⟩ | ⟨-, hdouble⟩
      · rw [hdouble, replace_quotes hn (by simp), List.cons_append, replace_of_ne hc,
          List.singleton_append, replace_of_ne hc, hrest]
        rfl
      · rw [hdouble, replace_quotes hn (by simp [hc]), List.singleton_append, replace_of_ne hc, hrest]
        rfl

def closingQuotes (cs : List Char) : Nat := (cs.reverse.takeWhile (· == '"')).length

theorem closingQuotes_append_cons {c : Char} (hc : c ≠ '"') (xs cs : List Char) :
    closingQuotes (xs ++ c :: cs) = closingQuotes cs := by
  have hstop : (c :: xs.reverse).takeWhile (· == '"') = [] := by simp [hc]
  rw [closingQuotes, List.reverse_append, List.reverse_cons, List.append_assoc,
    List.singleton_append, List.takeWhile_append, hstop, List.append_nil]
  split_ifs with hall
  · exact hall.symm
  · rfl

theorem closingQuotes_tripleQuote (cs : List Char) :
    closingQuotes (tripleQuote ++ cs) % 3 = closingQuotes cs % 3 := by
  have hall : tripleQuote.reverse.takeWhile (· == '"') = tripleQuote := by decide
  rw [closingQuotes, List.reverse_append, List.takeWhile_append, hall, closingQuotes]
  split_ifs with hlength
  · rw [hlength, List.length_append]
    exact Nat.add_mod_right _ 3
  · rfl

theorem closingQuotes_replicate (n : Nat) : closingQuotes (List.replicate n '"') = n := by
  simp [closingQuotes]

theorem body_escapeFrom {n : Nat} (hn : n ≤ 2) (cs : List Char) :
    Body (closingQuotes (List.replicate n '"' ++ cs) % 3) 0 (escapeFrom n cs) := by
  have hquotes : ∀ {n : Nat}, n ≤ 2 → Body n 0 (List.replicate n '"') := by
    intro n hn
    simpa using Body.of_quotes (n := 0) (m := n) (by omega)
  -- The quotes held back count among those of the text until a third one or another character.
  induction cs generalizing n with
  | nil =>
    rw [List.append_nil, closingQuotes_replicate, Nat.mod_eq_of_lt (by omega)]
    exact hquotes hn
  | cons c cs ih =>
    rw [escapeFrom]
    by_cases hc : c = '"'
    · subst hc
      rw [if_pos rfl, replicate_append_quote]
      split_ifs with htwo
      · subst htwo
        have hrest := ih (Nat.zero_le 2)
        rw [List.replicate_zero, List.nil_append] at hrest
        have hthree : List.replicate 3 '"' = tripleQuote := rfl
        rw [hthree, closingQuotes_tripleQuote]
        exact .escape (Or.inr rfl) (.escape (Or.inr rfl) (.escape (Or.inr rfl) hrest))
      · exact ih (by omega)
    · have hrest := ih (Nat.zero_le 2)
      rw [List.replicate_zero, List.nil_append] at hrest
      rw [if_neg hc, closingQuotes_append_cons hc]
      refine (hquotes hn).append ?_
      rcases doubleBackslash_cases c with ⟨rfl, hdouble⟩ | ⟨hne, hdouble⟩
      · rw [hdouble]
        exact .escape (Or.inl rfl) hrest
      · rw [hdouble]
        exact .plain ⟨hne, hc⟩ hrest

theorem getLast?_escapeFrom (n : Nat) (cs : List Char) :
    (escapeFrom n cs).getLast? = (List.replicate n '"' ++ cs).getLast? := by
  induction cs generalizing n with
  | nil => simp [escapeFrom]
  | cons c cs ih =>
    rw [escapeFrom]
    split_ifs with hc htwo
    · subst hc htwo
      rw [List.getLast?_append, ih]
      simp [escapedQuotes, List.getLast?_cons]
    · subst hc
      rw [ih, replicate_append_quote]
    · rw [List.getLast?_append, List.getLast?_append, ih, List.getLast?_append]
      rcases doubleBackslash_cases c with ⟨rfl, hdouble⟩ | ⟨-, hdouble⟩
      · simp [hdouble, List.getLast?_cons]
      · simp [hdouble, List.getLast?_cons]

theorem any_isLineBreak_escapeFrom (n : Nat) (cs : List Char) :
    (escapeFrom n cs).any Text.isLineBreak = cs.any Text.isLineBreak := by
  have hquote : Text.isLineBreak '"' = false := by decide
  have hbackslash : Text.isLineBreak '\\' = false := by decide
  induction cs generalizing n with
  | nil => simp [escapeFrom, hquote]
  | cons c cs ih =>
    rw [escapeFrom]
    split_ifs with hc htwo
    · subst hc
      simp [escapedQuotes, ih, hquote, hbackslash]
    · subst hc
      simp [ih, hquote]
    · rcases doubleBackslash_cases c with ⟨rfl, hdouble⟩ | ⟨-, hdouble⟩
      · simp [hdouble, ih, hquote, hbackslash]
      · simp [hdouble, ih, hquote]

theorem Body.of_padding (n : Nat) : Body 0 0 (padding n) := by
  unfold padding
  induction 4 * n with
  | zero => exact .nil
  | succ n ih => exact .plain (by decide) ih

theorem Body.lines {m n : Nat} {cs : List Char} (h : Body m n cs) :
    (∃ k, Body k n ((Text.lines cs).headD []))
      ∧ ∀ line ∈ (Text.lines cs).tail, ∃ k, Body k 0 line := by
  induction h with
  | nil => exact ⟨⟨m, .nil⟩, by simp [Text.lines]⟩
  | @escape n c cs hc _ ih =>
    have hbreak : Text.isLineBreak c = false := by rcases hc with rfl | rfl <;> decide
    obtain ⟨⟨k, hk⟩, htail⟩ := ih
    rw [Text.lines_cons_of_not_isLineBreak (by decide), Text.lines_cons_of_not_isLineBreak hbreak]
    exact ⟨⟨k, .escape hc hk⟩, htail⟩
  | @quote n cs hn _ ih =>
    obtain ⟨⟨k, hk⟩, htail⟩ := ih
    rw [Text.lines_cons_of_not_isLineBreak (by decide)]
    exact ⟨⟨k, .quote hn hk⟩, htail⟩
  | @plain n c cs hc _ ih =>
    obtain ⟨⟨k, hk⟩, htail⟩ := ih
    by_cases hbreak : Text.isLineBreak c = true
    · obtain ⟨rest, hlines, hrest⟩ := Text.lines_cons_of_isLineBreak hbreak cs
      rw [hlines]
      refine ⟨⟨n, .nil⟩, fun line hline => ?_⟩
      -- The first half of a break of two characters makes no line of its own.
      rcases hrest with rfl | hrest
      · cases hcs : Text.lines cs with
        | nil => simp [hcs] at hline
        | cons first others =>
          rw [hcs] at hk htail hline
          rcases List.mem_cons.mp hline with rfl | hline
          · exact ⟨k, hk⟩
          · exact htail line hline
      · rw [hrest] at htail
        exact htail line hline
    · rw [Text.lines_cons_of_not_isLineBreak (by simpa using hbreak)]
      exact ⟨⟨k, .plain hc hk⟩, htail⟩

/-- Lines that are bodies are one body again, with a break between them. -/
theorem Body.joinWith {k n : Nat} {line last : List Char} (h : Body k n line)
    (hlast : Body 0 0 last) {lines : List (List Char)} (hlines : ∀ l ∈ lines, ∃ k, Body k 0 l) :
    Body 0 n (Text.joinWith ['\n'] (line :: (lines ++ [last]))) := by
  have hcons : ∀ {next : List Char} {rest : List (List Char)} {k n : Nat} {line : List Char},
      Body k n line → Body 0 0 (Text.joinWith ['\n'] (next :: rest)) →
        Body 0 n (Text.joinWith ['\n'] (line :: next :: rest)) := by
    intro next rest k n line hline hrest
    have hjoin : Text.joinWith ['\n'] (line :: next :: rest)
        = line ++ '\n' :: Text.joinWith ['\n'] (next :: rest) := by simp [Text.joinWith]
    rw [hjoin]
    exact hline.append (.plain (by decide) hrest)
  induction lines generalizing k n line with
  | nil => exact hcons h hlast
  | cons next lines ih =>
    obtain ⟨j, hnext⟩ := hlines next (by simp)
    exact hcons h (ih hnext fun l hl => hlines l (List.mem_cons_of_mem _ hl))

theorem closingQuotes_eq_zero_iff (cs : List Char) :
    closingQuotes cs = 0 ↔ cs.getLast? ≠ some '"' := by
  rw [closingQuotes, List.length_eq_zero_iff, ← List.head?_reverse]
  cases cs.reverse with
  | nil => simp
  | cons c cs => by_cases hc : c = '"' <;> simp [hc]

/-- The quotes that end a text come in threes: escaped, they end in an escaped quote, and a
backslash before that one escapes the backslash there. -/
def endsInTriples (cs : List Char) : Bool := closingQuotes cs != 0 && closingQuotes cs % 3 == 0

/-- A text of one line, outer blanks left out, that ends in quotes by threes. -/
def leavesQuote (text : List Char) : Bool :=
  !(Text.trim text).any Text.isLineBreak && endsInTriples (Text.trim text)

theorem escape_eq (text : List Char) :
    escape text
      = if (Text.trim text).getLast? = some '"' then
          (escapeFrom 0 (Text.trim text)).dropLast ++ ['\\', '"']
        else escapeFrom 0 (Text.trim text) := by
  have hreplace : Text.replace tripleQuote escapedQuotes
      ((Text.trim text).flatMap doubleBackslash) = escapeFrom 0 (Text.trim text) :=
    replace_eq_escapeFrom (Nat.zero_le 2) (Text.trim text)
  unfold escapedQuotes at hreplace
  simp only [escape, hreplace, getLast?_escapeFrom, List.replicate_zero, List.nil_append,
    beq_iff_eq]

theorem escape_cases (text : List Char) :
    (∃ cs, escapeFrom 0 (Text.trim text) = cs ++ ['"'] ∧ escape text = cs ++ ['\\', '"']
        ∧ closingQuotes (Text.trim text) ≠ 0)
      ∨ escape text = escapeFrom 0 (Text.trim text) ∧ closingQuotes (Text.trim text) = 0 := by
  rw [escape_eq, Ne, closingQuotes_eq_zero_iff]
  split_ifs with hlast
  · refine Or.inl ⟨_, ?_, rfl, not_not.mpr hlast⟩
    have he : (escapeFrom 0 (Text.trim text)).getLast? = some '"' := by
      rw [getLast?_escapeFrom]
      exact hlast
    exact (List.dropLast_append_getLast? _ he).symm
  · exact Or.inr ⟨rfl, hlast⟩

theorem body_escape (text : List Char) :
    Body (if endsInTriples (Text.trim text) then 1 else 0) 0 (escape text) := by
  have hbody : Body (closingQuotes (Text.trim text) % 3) 0 (escapeFrom 0 (Text.trim text)) :=
    body_escapeFrom (Nat.zero_le 2) (Text.trim text)
  unfold endsInTriples
  rcases escape_cases text with ⟨cs, he, hescape, hquotes⟩ | ⟨hescape, hquotes⟩
  · rw [he] at hbody
    simpa [hescape, hquotes] using hbody.escape_last
  · rw [hquotes] at hbody
    simpa [hescape, hquotes] using hbody

theorem any_isLineBreak_escape (text : List Char) :
    (escape text).any Text.isLineBreak = (Text.trim text).any Text.isLineBreak := by
  rw [← any_isLineBreak_escapeFrom 0 (Text.trim text)]
  rcases escape_cases text with ⟨cs, he, hescape, -⟩ | ⟨hescape, -⟩
  · have hmarks : Text.isLineBreak '\\' = false ∧ Text.isLineBreak '"' = false := by decide
    rw [he, hescape]
    simp [hmarks]
  · rw [hescape]

theorem not_isLineBreak_last_escape {text : List Char} :
    ∀ c ∈ (escape text).getLast?, Text.isLineBreak c = false := by
  intro c hc
  rcases escape_cases text with ⟨cs, -, hescape, -⟩ | ⟨hescape, -⟩
  · obtain rfl : '"' = c := by simpa [hescape] using hc
    decide
  · rw [hescape, getLast?_escapeFrom] at hc
    by_contra hbreak
    have hblank := Text.isBlank_of_isLineBreak (by simpa using hbreak)
    rw [Text.not_isBlank_last_trim hc] at hblank
    cases hblank

theorem Body.eq_concat_quote {n : Nat} {cs : List Char} (h : Body 1 n cs) :
    n = 1 ∧ cs = [] ∨ ∃ ds, cs = ds ++ ['"'] ∧ Body 0 n ds := by
  induction h with
  | nil => exact Or.inl ⟨rfl, rfl⟩
  | @escape n c cs hc _ ih =>
    obtain ⟨h, -⟩ | ⟨ds, rfl, hds⟩ := ih
    · cases h
    · exact Or.inr ⟨_ :: _ :: ds, rfl, .escape hc hds⟩
  | @quote n cs hn _ ih =>
    obtain ⟨h, rfl⟩ | ⟨ds, rfl, hds⟩ := ih
    · obtain rfl : n = 0 := by omega
      exact Or.inr ⟨[], rfl, .nil⟩
    · exact Or.inr ⟨_ :: ds, rfl, .quote hn hds⟩
  | @plain n c cs hc _ ih =>
    obtain ⟨h, -⟩ | ⟨ds, rfl, hds⟩ := ih
    · cases h
    · exact Or.inr ⟨_ :: ds, rfl, .plain hc hds⟩

theorem body_continuation {k : Nat} (indent : Nat) {line : List Char} (h : Body k 0 line) :
    ∃ k, Body k 0 (continuation (padding indent) line) := by
  unfold continuation
  split_ifs
  · exact ⟨0, .nil⟩
  · exact ⟨k, (Body.of_padding indent).append h⟩

def Holds (text : String) (indent : Nat) (body rest : List Char) : Prop :=
  (render text indent).toList = padding indent ++ (tripleQuote ++ (body ++ (tripleQuote ++ rest)))

theorem holds_of_nil {text : String} (h : escape text.toList = []) (indent : Nat) :
    Holds text indent [] [] := by
  have hlines : lines indent text.toList = [padding indent ++ tripleQuote ++ tripleQuote] := by
    rw [lines, h]
    rfl
  rw [Holds, render, String.toList_ofList, hlines]
  simp [Text.joinWith]

theorem holds_of_line {text : String} {body rest : List Char}
    (h : Text.lines (escape text.toList) = [body ++ rest])
    (hrest : rest ++ tripleQuote = tripleQuote ++ rest) (indent : Nat) : Holds text indent body rest := by
  have hlines : lines indent text.toList
      = [padding indent ++ tripleQuote ++ (body ++ rest) ++ tripleQuote] := by
    rw [lines, h]
  rw [Holds, render, String.toList_ofList, hlines]
  simp [Text.joinWith, hrest]

theorem holds_of_lines {text : String} {line next : List Char} {others : List (List Char)}
    (h : Text.lines (escape text.toList) = line :: next :: others) (indent : Nat) :
    Holds text indent (Text.joinWith ['\n']
      (line :: ((next :: others).map (continuation (padding indent)) ++ [padding indent]))) [] := by
  have hlines : lines indent text.toList = (padding indent ++ tripleQuote ++ line)
      :: ((next :: others).map (continuation (padding indent))
        ++ [padding indent ++ tripleQuote]) := by
    rw [lines, h]
  rw [Holds, render, String.toList_ofList, hlines, Text.joinWith_append_head, ← List.cons_append,
    Text.joinWith_append_last]
  simp

theorem exists_body_of_line {text : String} {line : List Char}
    (hlines : Text.lines (escape text.toList) = [line]) (indent : Nat) :
    ∃ body, Body 0 0 body
      ∧ Holds text indent body (if leavesQuote text.toList then ['"'] else []) := by
  obtain ⟨heq, hany⟩ := Text.eq_of_lines_eq_singleton hlines not_isLineBreak_last_escape
  rw [any_isLineBreak_escape] at hany
  have hleaves : leavesQuote text.toList = endsInTriples (Text.trim text.toList) := by
    simp [leavesQuote, hany]
  have hescape := body_escape text.toList
  rw [heq] at hescape
  rw [hleaves]
  -- Where the escaped text ends in a free quote, the literal ends one quote early.
  split_ifs at hescape ⊢
  · obtain ⟨h, -⟩ | ⟨body, rfl, hbody⟩ := hescape.eq_concat_quote
    · cases h
    · exact ⟨body, hbody, holds_of_line hlines rfl indent⟩
  · rw [← List.append_nil line] at hlines
    exact ⟨line, hescape, holds_of_line hlines rfl indent⟩

theorem exists_body_of_lines {text : String} {line next : List Char} {others : List (List Char)}
    (hlines : Text.lines (escape text.toList) = line :: next :: others) (indent : Nat) :
    leavesQuote text.toList = false ∧ ∃ body, Body 0 0 body ∧ Holds text indent body [] := by
  have hany : (Text.trim text.toList).any Text.isLineBreak = true := by
    by_contra hany
    rw [Bool.not_eq_true, ← any_isLineBreak_escape] at hany
    have hne : escape text.toList ≠ [] := by
      intro hnil
      rw [hnil] at hlines
      cases hlines
    rw [Text.lines_of_not_isLineBreak hne hany] at hlines
    cases hlines
  obtain ⟨⟨k, hline⟩, hrest⟩ := (body_escape text.toList).lines
  rw [hlines] at hline hrest
  have hbodies : ∀ l ∈ (next :: others).map (continuation (padding indent)), ∃ k, Body k 0 l := by
    intro l hl
    obtain ⟨m, hm, rfl⟩ := List.mem_map.mp hl
    obtain ⟨k, hk⟩ := hrest m hm
    exact body_continuation indent hk
  refine ⟨by simp [leavesQuote, hany], ?_⟩
  exact ⟨_, hline.joinWith (Body.of_padding indent) hbodies, holds_of_lines hlines indent⟩

theorem exists_body (text : String) (indent : Nat) :
    ∃ body, Body 0 0 body
      ∧ Holds text indent body (if leavesQuote text.toList then ['"'] else []) := by
  cases hlines : Text.lines (escape text.toList) with
  | nil =>
    have hnil := Text.lines_eq_nil_iff.mp hlines
    have hplain : endsInTriples (Text.trim text.toList) = false := by
      by_contra hends
      have hescape := body_escape text.toList
      rw [Bool.not_eq_false] at hends
      rw [hnil, hends] at hescape
      cases hescape
    simpa [leavesQuote, hplain] using ⟨[], .nil, holds_of_nil hnil indent⟩
  | cons line rest =>
    cases rest with
    | nil => exact exists_body_of_line hlines indent
    | cons next others =>
      obtain ⟨hleaves, hbody⟩ := exists_body_of_lines hlines indent
      rw [hleaves]
      exact hbody

/-- What is written is one literal: the first three quotes without a backslash after the opening
ones end it, and nothing follows them. Only a text that leaves a quote has one there. -/
theorem render_literal (text : String) (indent : Nat) :
    ∃ body rest, (render text indent).toList
        = padding indent ++ (tripleQuote ++ (body ++ (tripleQuote ++ rest)))
      ∧ longBody? '"' (body ++ (tripleQuote ++ rest)) = some (body, rest)
      ∧ token? (tripleQuote ++ (body ++ (tripleQuote ++ rest))) = some (.text false [], rest)
      ∧ rest = if leavesQuote text.toList then ['"'] else [] := by
  obtain ⟨body, hbody, hholds⟩ := exists_body text indent
  exact ⟨body, _, hholds, hbody.longBody?_eq (Nat.zero_le 2) _, hbody.token?_eq _, rfl⟩

/-- Three quotes alone leave one behind the literal, which starts another that nothing ends. -/
theorem render_tripleQuote :
    (render "\"\"\"" 0).toList
        = tripleQuote ++ (['\\', '"', '\\', '"', '\\', '\\'] ++ (tripleQuote ++ ['"']))
      ∧ tokens? (render "\"\"\"" 0).toList = none := by
  decide

end SmithyGen.Docstring
