import SmithyGen.Proofs.Idl.Blocks

namespace SmithyGen.Idl

open Matcher Source

section Keywords

variable {κ : Type} {keywords : List (String × κ)}

theorem named?_eq_none {cs : List Char}
    (h : ∀ entry ∈ keywords, ∀ left, cs = entry.1.toList ++ left →
      ∀ c ∈ left.head?, Text.isInlineBlank c = false) : named? keywords cs = none := by
  refine List.findSome?_eq_none_iff.mpr fun entry hentry => ?_
  cases hstrip : Text.strip? entry.1.toList cs with
  | none => simp [hstrip]
  | some left =>
    have hhead := h entry hentry left (Text.eq_append_of_strip? hstrip)
    have hdrop : left.dropWhile Text.isInlineBlank = left := by
      cases left with
      | nil => rfl
      | cons c left => simp [hhead c rfl]
    simp [hstrip, hdrop]

theorem named?_cons (hkeys : ∀ entry ∈ keywords, IsKey entry.1) {c : Char}
    (hc : isNameChar c = false) (cs : List Char) : named? keywords (c :: cs) = none := by
  refine named?_eq_none fun entry hentry left heq => absurd ?_ ((hkeys entry hentry).not_mem hc)
  obtain ⟨d, ds, hchars, -⟩ := (hkeys entry hentry).exists_cons
  rw [hchars] at heq ⊢
  rw [(List.cons.inj heq).1]
  exact List.mem_cons_self

theorem named?_line (hkeys : ∀ entry ∈ keywords, IsKey entry.1) {xs : List Char}
    (hxs : ∀ c ∈ xs, isRefChar c = true) (rest : List Char) :
    named? keywords (xs ++ '\n' :: rest) = none := by
  refine named?_eq_none fun entry hentry left heq c hc => ?_
  rcases List.append_eq_append_iff.mp heq with ⟨as, hkey, hleft⟩ | ⟨bs, hword, hleft⟩
  · -- the keyword would have to go on over the line break
    cases as with
    | nil =>
      obtain rfl : left = '\n' :: rest := by simpa using hleft.symm
      obtain rfl : '\n' = c := Option.some.inj hc
      decide
    | cons d as =>
      obtain rfl : '\n' = d := (List.cons.inj hleft).1
      have hbreak : isNameChar '\n' = false := by decide
      exact absurd (by simp [hkey]) ((hkeys entry hentry).not_mem hbreak)
  · -- the word goes on after the keyword, with no blank in between
    cases bs with
    | nil =>
      obtain rfl : left = '\n' :: rest := by simpa using hleft
      obtain rfl : '\n' = c := Option.some.inj hc
      decide
    | cons d bs =>
      rw [hleft] at hc
      obtain rfl : d = c := Option.some.inj hc
      exact isInlineBlank_of_isRefChar (hxs d (by simp [hword]))

theorem named?_other (hkeys : ∀ entry ∈ keywords, IsKey entry.1) {word : String}
    (hword : IsKey word) (hne : ∀ entry ∈ keywords, entry.1 ≠ word) (rest : List Char) :
    named? keywords (word.toList ++ ' ' :: rest) = none := by
  refine named?_eq_none fun entry hentry left heq c hc => ?_
  obtain ⟨d, ds, rfl, hd⟩ :=
    hword.head?_left (hkeys entry hentry) (hne entry hentry) (by decide) heq
  obtain rfl : d = c := Option.some.inj hc
  exact isInlineBlank_of_isRefChar (isRefChar_of_isNameChar hd)

theorem heading_append (word : String) (name : Ident) (rest : List Char) :
    heading word name ++ rest = word.toList ++ ' ' :: (name.chars ++ rest) := by
  simp [heading]

theorem named?_cons_entry (entry : String × κ) (keywords : List (String × κ)) (cs : List Char) :
    named? (entry :: keywords) cs = (named? [entry] cs).or (named? keywords cs) := by
  unfold named?
  rw [List.findSome?_cons, List.findSome?_singleton]
  split
  · next h => rw [h, Option.some_or]
  · next h => rw [h, Option.none_or]

theorem named?_singleton (word : String) (kind : κ) (name : Ident) {rest : List Char}
    (hrest : ∀ c ∈ rest.head?, Text.isWord c = false) :
    named? [(word, kind)] (heading word name ++ rest) = some ((kind, name.text), rest) := by
  have hstrip : Text.strip? word.toList (heading word name ++ rest)
      = some (' ' :: (name.chars ++ rest)) := by
    rw [heading_append, Text.strip?_append]
  have hfirst := isRefChar_of_isNameChar (isNameChar_of_isNameStart name.isNameStart_first)
  have hdrop : (' ' :: (name.chars ++ rest)).dropWhile Text.isInlineBlank = name.chars ++ rest := by
    rw [List.dropWhile_cons_of_pos (by decide), Ident.chars, List.cons_append,
      List.dropWhile_cons_of_neg (by simp [isInlineBlank_of_isRefChar hfirst])]
  have hlength : ((name.chars ++ rest).length == (' ' :: (name.chars ++ rest)).length) = false := by
    simp
  rw [named?, List.findSome?_singleton]
  simp only [hstrip, Option.bind_eq_bind, Option.bind_some, hdrop, hlength, name?_append name hrest]
  rfl

theorem named?_heading (hkeys : ∀ entry ∈ keywords, IsKey entry.1) {word : String} {kind : κ}
    (hmem : (word, kind) ∈ keywords) (honly : ∀ entry ∈ keywords, entry.1 = word → entry.2 = kind)
    (name : Ident) {rest : List Char} (hrest : ∀ c ∈ rest.head?, Text.isWord c = false) :
    named? keywords (heading word name ++ rest) = some ((kind, name.text), rest) := by
  have hkey := hkeys _ hmem
  induction keywords with
  | nil => cases hmem
  | cons entry keywords ih =>
    obtain ⟨other, kind'⟩ := entry
    rw [named?_cons_entry]
    by_cases hword : other = word
    · subst hword
      obtain rfl : kind' = kind := honly _ List.mem_cons_self rfl
      rw [named?_singleton other kind' name hrest, Option.some_or]
    · -- another keyword is not found, even one that the word starts with
      have hnone : named? [(other, kind')] (heading word name ++ rest) = none := by
        rw [heading_append]
        exact named?_other (by simpa using hkeys _ List.mem_cons_self) hkey (by simpa using hword) _
      have hrest' : (word, kind) ∈ keywords := by simpa [Ne.symm hword] using hmem
      rw [hnone, Option.none_or]
      exact ih (fun entry he => hkeys entry (List.mem_cons_of_mem _ he)) hrest'
        (fun entry he => honly entry (List.mem_cons_of_mem _ he))

end Keywords

theorem isKey_blockKeywords : ∀ entry ∈ blockKeywords, IsKey entry.1 := by decide

theorem isKey_simpleKeywords : ∀ entry ∈ simpleKeywords, IsKey entry.1 := by decide

theorem declaration_eq_none {before : Option Char} {c : Char} {cs : List Char}
    (hslash : c ≠ '/') (hsign : c ≠ '@')
    (h : mayStartAfter before = true →
      named? blockKeywords (c :: cs) = none ∧ named? simpleKeywords (c :: cs) = none) :
    declaration before (c :: cs) = none := by
  have hdocs : docs (c :: cs) = ([], c :: cs) := docs_eq_nil (by simpa using hslash)
  have happlied : applications (c :: cs) = ([], c :: cs) :=
    applications_eq_nil (by simpa using hsign)
  have hlast : lastBefore before (c :: cs) (c :: cs) = before :=
    lastBefore_append before [] (c :: cs)
  simp only [declaration, hdocs, happlied, hlast]
  split_ifs with hstart
  · obtain ⟨hblock, hsimple⟩ := h hstart
    simp [block?, simple?, hblock, hsimple]
  · rfl

theorem declaration_sign {c : Char} (hslash : c ≠ '/') (hsign : c ≠ '@')
    (hc : isNameChar c = false) (before : Option Char) (cs : List Char) :
    declaration before (c :: cs) = none :=
  declaration_eq_none hslash hsign fun _ =>
    ⟨named?_cons isKey_blockKeywords hc cs, named?_cons isKey_simpleKeywords hc cs⟩

theorem passes_inside {c : Char} (hc : isRefChar c = true) {xs : List Char}
    (hxs : ∀ d ∈ xs, isRefChar d = true) (ys : List Char) :
    Passes declaration (some c) xs ys := by
  induction xs generalizing c with
  | nil => trivial
  | cons d xs ih =>
    have hd := hxs d (by simp)
    refine ⟨?_, ih hd fun e he => hxs e (List.mem_cons_of_mem d he)⟩
    have hinside : mayStartAfter (some c) = false := by
      simp [mayStartAfter, isIdChar_of_isRefChar hc]
    refine declaration_eq_none (ne_of_isRefChar hd (by decide)) (ne_of_isRefChar hd (by decide)) ?_
    exact fun hstart => absurd hstart (by simp [hinside])

theorem passes_declaration_word {xs ys : List Char} (hxs : ∀ c ∈ xs, isRefChar c = true)
    (h : named? blockKeywords (xs ++ ys) = none ∧ named? simpleKeywords (xs ++ ys) = none)
    (before : Option Char) : Passes declaration before xs ys := by
  cases xs with
  | nil => trivial
  | cons c xs =>
    have hc := hxs c (by simp)
    refine ⟨?_, passes_inside hc (fun d hd => hxs d (List.mem_cons_of_mem c hd)) ys⟩
    exact declaration_eq_none (ne_of_isRefChar hc (by decide)) (ne_of_isRefChar hc (by decide))
      fun _ => h

namespace Source.Declaration

def text (margin : Nat) (d : Declaration) : List Char :=
  traitRun [] d.traits ++
    match d.content with
    | .simple kind _ => heading kind d.name
    | .block b =>
      heading (keyword b.kind) d.name ++ ' ' :: '\x7b' :: ('\n' :: b.lines margin ++ ['\x7d'])

theorem lines_eq (margin : Nat) (d : Declaration) : d.lines margin = d.text margin ++ ['\n'] := by
  have htraits : traitLines 0 d.traits = traitRun [] d.traits := by
    simpa using traitLines_append 0 d.traits
  rw [lines, text, htraits]
  cases d.content with
  | simple kind known => simp [line]
  | block b => simp [line]

/-- What is found of a declaration, its body still text. -/
def written (margin : Nat) (d : Declaration) : Idl.Declaration :=
  ⟨traitsOf d.traits,
    match d.content with
    | .simple kind _ => .simple kind d.name.text
    | .block b => .block b.kind d.name.text ('\n' :: b.lines margin)⟩

end Source.Declaration

theorem block?_heading (margin : Nat) (name : Ident) (b : Block) (rest : List Char) :
    block? (heading (keyword b.kind) name
        ++ ' ' :: '\x7b' :: ('\n' :: b.lines margin ++ '\x7d' :: rest))
      = some (.block b.kind name.text ('\n' :: b.lines margin), rest) := by
  have hkeyword : ∀ kind : BlockKind, (keyword kind, kind) ∈ blockKeywords
      ∧ ∀ entry ∈ blockKeywords, entry.1 = keyword kind → entry.2 = kind := by
    intro kind
    cases kind <;> decide
  obtain ⟨hmem, honly⟩ := hkeyword b.kind
  have hnamed := named?_heading isKey_blockKeywords hmem honly name
    (show ∀ c ∈ (' ' :: '\x7b' :: ('\n' :: b.lines margin ++ '\x7d' :: rest)).head?,
      Text.isWord c = false by simp; decide)
  have hstart (inner : List Char) : blockStart (' ' :: '\x7b' :: inner) = '\x7b' :: inner := by
    have hclause : hasClause (' ' :: '\x7b' :: inner) = false := Bool.and_false _
    rw [blockStart, hclause]
    rfl
  have hbody : body? ('\n' :: b.lines margin ++ '\x7d' :: rest)
      = some ('\n' :: b.lines margin, rest) :=
    body?_of_continues (Inert.cons (by decide) (b.inert_lines margin)).continues rest
  simp only [block?, hnamed, Option.bind_eq_bind, Option.bind_some, hstart, hbody]
  rfl

theorem simple?_heading {kind : String} (hkind : (kind, kind) ∈ simpleKeywords) (name : Ident)
    (rest : List Char) :
    block? (heading kind name ++ '\n' :: rest) = none
      ∧ simple? (heading kind name ++ '\n' :: rest)
        = some (.simple kind name.text, '\n' :: rest) := by
  have hkinds : ∀ entry ∈ simpleKeywords, entry.1 = entry.2
      ∧ ∀ block ∈ blockKeywords, block.1 ≠ entry.1 := by decide
  have hblock : named? blockKeywords (heading kind name ++ '\n' :: rest) = none := by
    rw [heading_append]
    exact named?_other isKey_blockKeywords (isKey_simpleKeywords _ hkind) (hkinds _ hkind).2 _
  have hnamed := named?_heading isKey_simpleKeywords hkind
    (fun entry hentry heq => (hkinds entry hentry).1.symm.trans heq) name
    (show ∀ c ∈ ('\n' :: rest).head?, Text.isWord c = false by simp; decide)
  refine ⟨by simp [block?, hblock], ?_⟩
  simp only [simple?, hnamed, Option.bind_eq_bind, Option.bind_some]
  rfl

theorem IsKey.isRefChar_head {word : String} (h : IsKey word) (name : Ident) {rest : List Char}
    {c : Char} (hc : c ∈ (heading word name ++ rest).head?) : isRefChar c = true := by
  obtain ⟨d, ds, hchars, hd⟩ := h.exists_cons
  rw [heading, hchars] at hc
  obtain rfl : d = c := Option.some.inj hc
  exact isRefChar_of_isNameChar hd

/-- A declaration is found from its first trait on, and takes up all of its text. -/
theorem declaration_match (margin : Nat) (d : Source.Declaration) {before : Option Char}
    (hbefore : mayStartAfter before = true) (rest : List Char) :
    declaration before (d.text margin ++ '\n' :: rest) = some (d.written margin, '\n' :: rest) := by
  obtain ⟨traits, name, content⟩ := d
  have hfound {cs : List Char} {w : Written} (hhead : ∀ c ∈ cs.head?, isRefChar c = true)
      (hw : (block? cs).or (simple? cs) = some (w, '\n' :: rest)) :
      declaration before (traitRun [] traits ++ cs)
        = some (⟨traitsOf traits, w⟩, '\n' :: rest) := by
    obtain ⟨hdocs, happlied, hstart⟩ :=
      start_traitRun traits (show ∀ c ∈ [], c = ' ' by simp) hhead hbefore
    simp only [declaration, hdocs, happlied, hstart, if_true, hw, traitEntries_bare,
      Option.map_some]
  cases content with
  | simple kind known =>
    obtain ⟨hblock, hsimple⟩ := simple?_heading known name rest
    rw [Declaration.text, List.append_assoc]
    refine hfound (fun c => (isKey_simpleKeywords _ known).isRefChar_head name) ?_
    rw [hblock, hsimple, Option.none_or]
  | block b =>
    have hkey : IsKey (keyword b.kind) := by cases b.kind <;> decide
    have hblock := block?_heading margin name b ('\n' :: rest)
    have htext : Declaration.text margin ⟨traits, name, .block b⟩ ++ '\n' :: rest
        = traitRun [] traits ++ (heading (keyword b.kind) name
          ++ ' ' :: '\x7b' :: ('\n' :: b.lines margin ++ '\x7d' :: '\n' :: rest)) := by
      simp [Declaration.text]
    rw [htext]
    refine hfound (fun c => hkey.isRefChar_head name) ?_
    rw [hblock, Option.some_or]

theorem Source.Declaration.text_ne_nil (margin : Nat) (d : Source.Declaration) :
    d.text margin ≠ [] := by
  rw [Declaration.text]
  cases d.content with
  | simple kind known => simp [heading]
  | block b => simp [heading]

/-- All declarations are found, one after the other. -/
theorem allFrom_declarations (margin : Nat) (ds : List Source.Declaration) (before : Option Char) :
    allFrom declaration 0 before (ds.flatMap fun d => '\n' :: d.lines margin)
      = ds.map (·.written margin) := by
  induction ds generalizing before with
  | nil => rfl
  | cons d ds ih =>
    -- Between two declarations stand two line breaks: the end of one and the empty line.
    have hbreak (b : Option Char) (cs : List Char) : declaration b ('\n' :: cs) = none :=
      declaration_sign (by decide) (by decide) (by decide) b cs
    have htext : '\n' :: d.lines margin ++ ds.flatMap (fun d => '\n' :: d.lines margin)
        = '\n' :: (d.text margin ++ '\n' :: ds.flatMap fun d => '\n' :: d.lines margin) := by
      simp [Declaration.lines_eq]
    rw [List.flatMap_cons, htext, allFrom_cons_of_none (hbreak _ _),
      allFrom_of_match (d.text_ne_nil margin) (declaration_match margin d (by decide) _),
      allFrom_cons_of_none (hbreak _ _), ih, List.map_cons]

end SmithyGen.Idl
