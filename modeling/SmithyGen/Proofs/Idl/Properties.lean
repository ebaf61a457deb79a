import SmithyGen.Proofs.Idl.Words
import SmithyGen.Proofs.Text

namespace SmithyGen.Idl

open Matcher Source

/-- A word that can be the key of a property. -/
def IsKey (key : String) : Prop := key.toList ≠ [] ∧ ∀ c ∈ key.toList, isNameChar c = true

instance (key : String) : Decidable (IsKey key) :=
  decidable_of_iff (key.toList ≠ [] ∧ key.toList.all isNameChar = true) (by simp [IsKey])

variable {key : String}

theorem IsKey.exists_cons (h : IsKey key) :
    ∃ c cs, key.toList = c :: cs ∧ isNameChar c = true := by
  obtain ⟨hne, hchars⟩ := h
  obtain ⟨c, cs, hcs⟩ := List.exists_cons_of_ne_nil hne
  exact ⟨c, cs, hcs, hchars c (by simp [hcs])⟩

theorem IsKey.not_mem (h : IsKey key) {c : Char} (hc : isNameChar c = false) :
    c ∉ key.toList := by
  intro hmem
  rw [h.2 c hmem] at hc
  cases hc

theorem property?_of_isWord {c : Char} (h : Text.isWord c = true) (cs : List Char) :
    property? key (some c) cs = none := by
  simp [property?, h]

theorem property?_eq_none {cs : List Char}
    (h : ∀ left, cs = key.toList ++ left → ∀ rest, skipBlank left ≠ ':' :: rest)
    (before : Option Char) : property? key before cs = none := by
  unfold property?
  split_ifs
  · rfl
  cases hstrip : Text.strip? key.toList cs with
  | none => rfl
  | some left =>
    have hcolon := h left (Text.eq_append_of_strip? hstrip)
    rw [Option.bind_eq_bind, Option.bind_some]
    split
    · next rest heq => exact absurd heq (hcolon rest)
    · rfl

theorem property?_cons (hkey : IsKey key) {c : Char} (hc : isNameChar c = false)
    (before : Option Char) (cs : List Char) : property? key before (c :: cs) = none := by
  obtain ⟨d, ds, hchars, -⟩ := hkey.exists_cons
  refine property?_eq_none (fun left heq => absurd ?_ (hkey.not_mem hc)) before
  rw [hchars] at heq ⊢
  rw [(List.cons.inj heq).1]
  exact List.mem_cons_self

theorem property?_self {before : Option Char} (hbefore : before.any Text.isWord = false)
    (rest : List Char) : property? key before (key.toList ++ ':' :: rest) = some rest := by
  have hcolon : skipBlank (':' :: rest) = ':' :: rest := rfl
  simp [property?, hbefore, Text.strip?_append, hcolon]

/-- Where a word starts with another one, a letter stands after that. -/
theorem IsKey.head?_left {word other : String} (hword : IsKey word) (hother : IsKey other)
    (hne : other ≠ word) {stop : Char} (hstop : isNameChar stop = false) {rest left : List Char}
    (h : word.toList ++ stop :: rest = other.toList ++ left) :
    ∃ c cs, left = c :: cs ∧ isNameChar c = true := by
  rcases List.append_eq_append_iff.mp h with ⟨as, hothers, hleft⟩ | ⟨bs, hwords, hleft⟩
  · -- the other one goes on where the word ends
    cases as with
    | nil => exact absurd (String.toList_inj.mp (by simpa using hothers)) hne
    | cons c as =>
      obtain rfl : stop = c := (List.cons.inj hleft).1
      exact absurd (by simp [hothers]) (hother.not_mem hstop)
  · -- the word goes on where the other one ends
    cases bs with
    | nil => exact absurd (String.toList_inj.mp (by simpa using hwords.symm)) hne
    | cons c bs => exact ⟨c, _, hleft, hword.2 c (by simp [hwords])⟩

/-- A key is not found where another one stands. -/
theorem property?_other {other : String} (hkey : IsKey key) (hother : IsKey other)
    (hne : key ≠ other) (before : Option Char) (rest : List Char) :
    property? key before (other.toList ++ ':' :: rest) = none := by
  refine property?_eq_none (fun left heq rest' h => ?_) before
  obtain ⟨c, cs, rfl, hc⟩ := hother.head?_left hkey hne (by decide) heq
  have href := isRefChar_of_isNameChar hc
  rw [skipBlank, List.dropWhile_cons_of_neg (by simp [isBlank_of_isRefChar href])] at h
  exact ne_of_isRefChar href (by decide) (List.cons.inj h).1

/-- After text without a colon, blanks are followed by a colon only where they already were. -/
theorem skipBlank_append_ne {xs ys : List Char} (hxs : ':' ∉ xs)
    (hys : ∀ rest, skipBlank ys ≠ ':' :: rest) (rest : List Char) :
    skipBlank (xs ++ ys) ≠ ':' :: rest := by
  induction xs with
  | nil => exact hys rest
  | cons c xs ih =>
    obtain ⟨hc, hxs⟩ : ':' ≠ c ∧ ':' ∉ xs := by simpa using hxs
    unfold skipBlank at ih ⊢
    rw [List.cons_append, List.dropWhile_cons]
    split_ifs
    · exact ih hxs
    · exact fun h => hc (List.cons.inj h).1.symm

theorem property?_value (hkey : IsKey key) {xs ys : List Char} (hxs : ':' ∉ xs)
    (hys : ∀ rest, skipBlank ys ≠ ':' :: rest) (before : Option Char) :
    property? key before (xs ++ '\n' :: ys) = none := by
  refine property?_eq_none (fun left heq => ?_) before
  have hnewline : ∀ rest, skipBlank ('\n' :: ys) ≠ ':' :: rest := hys
  rcases List.append_eq_append_iff.mp heq with ⟨as, hkeys, hleft⟩ | ⟨bs, hvalue, hleft⟩
  · -- a key has no line break in it, so it ends in the value
    cases as with
    | nil =>
      rw [List.nil_append] at hleft
      exact hleft ▸ hnewline
    | cons c as =>
      obtain rfl : '\n' = c := (List.cons.inj hleft).1
      exact absurd (by simp [hkeys]) (hkey.not_mem (show isNameChar '\n' = false by decide))
  · -- the rest of the value has no colon, nor has what comes after the line break
    rw [hleft]
    refine skipBlank_append_ne (fun hmem => hxs ?_) hnewline
    rw [hvalue]
    exact List.mem_append_right _ hmem

variable {α : Type} {m : Matcher α}

def Needs (m : Matcher α) (key : String) : Prop :=
  ∀ before cs, property? key before cs = none → m before cs = none

theorem passes_value (hm : Needs m key) (hkey : IsKey key) {xs ys : List Char} (hxs : ':' ∉ xs)
    (hys : ∀ rest, skipBlank ys ≠ ':' :: rest) (before : Option Char) :
    Passes m before (xs ++ ['\n']) ys := by
  induction xs generalizing before with
  | nil => exact ⟨hm _ _ (property?_cons hkey (by decide) _ _), trivial⟩
  | cons c xs ih =>
    refine ⟨hm _ _ ?_, ih (fun h => hxs (List.mem_cons_of_mem c h)) (some c)⟩
    have hvalue := property?_value hkey hxs hys before
    simpa using hvalue

theorem passes_word (hm : Needs m key) {xs : List Char} (hxs : ∀ c ∈ xs, Text.isWord c = true)
    {before : Option Char} {ys : List Char} (h : property? key before (xs ++ ys) = none) :
    Passes m before xs ys := by
  induction xs generalizing before with
  | nil => trivial
  | cons c xs ih =>
    refine ⟨hm _ _ h, ih (fun d hd => hxs d (List.mem_cons_of_mem c hd)) ?_⟩
    exact property?_of_isWord (hxs c (by simp)) _

theorem fieldLine_eq (margin : Nat) (name value : List Char) :
    fieldLine margin name value
      = List.replicate margin ' ' ++ (name ++ ([':', ' '] ++ (value ++ ['\n']))) := by
  simp [fieldLine, line]

theorem passes_line (hm : Needs m key) (hkey : IsKey key) {other : String} (hother : IsKey other)
    (hne : key ≠ other) {value ys : List Char} (hvalue : ':' ∉ value)
    (hys : ∀ rest, skipBlank ys ≠ ':' :: rest) (margin : Nat) (before : Option Char) :
    Passes m before (fieldLine margin other.toList value) ys := by
  have hsign (c : Char) (hc : isNameChar c = false) (b : Option Char) (cs : List Char) :
      m b (c :: cs) = none := hm b _ (property?_cons hkey hc b cs)
  rw [fieldLine_eq]
  refine .append (passes_of_forall (fun b c hc cs => ?_) _ _) (.append ?_ (.append ?_ ?_))
  · rw [List.eq_of_mem_replicate hc]
    exact hsign ' ' (by decide) b cs
  · refine passes_word hm (fun c hc => isWord_of_isNameChar (hother.2 c hc)) ?_
    exact property?_other hkey hother hne _ _
  · exact ⟨hsign ':' (by decide) _ _, hsign ' ' (by decide) _ _, trivial⟩
  · exact passes_value hm hkey hvalue hys _

variable {properties : List (String × List Char)}

theorem propertyLines_cons (margin : Nat) (key : String) (value : List Char)
    (properties : List (String × List Char)) :
    propertyLines margin ((key, value) :: properties)
      = fieldLine margin key.toList value ++ propertyLines margin properties := rfl

theorem skipBlank_propertyLines (hkeys : ∀ p ∈ properties, IsKey p.1) (margin : Nat)
    (rest : List Char) : skipBlank (propertyLines margin properties) ≠ ':' :: rest := by
  cases properties with
  | nil => exact fun h => nomatch h
  | cons p properties =>
    obtain ⟨c, cs, hchars, hc⟩ := (hkeys p (by simp)).exists_cons
    have href := isRefChar_of_isNameChar hc
    have hpad : ∀ d ∈ List.replicate margin ' ', d = ' ' := fun d hd => List.eq_of_mem_replicate hd
    rw [propertyLines_cons, fieldLine_eq, List.append_assoc, hchars]
    rw [skipBlank_append hpad]
    · intro h
      exact ne_of_isRefChar href (by decide) (List.cons.inj h).1
    · intro d hd
      obtain rfl : c = d := Option.some.inj hd
      exact isBlank_of_isRefChar href

/-- What a matcher that reads the value of a property finds: the value on the line of its key. -/
theorem firstFrom_propertyLines {β : Type} (hm : Needs m key) (hkey : IsKey key)
    (hproperties : ∀ p ∈ properties, IsKey p.1 ∧ ':' ∉ p.2) {o : Option β} {written : β → List Char}
    {read : β → α} (hlookup : properties.lookup key = o.map written)
    (hread : ∀ x before rest, before.any Text.isWord = false →
      ∃ left, m before (key.toList ++ ':' :: ' ' :: (written x ++ '\n' :: rest))
        = some (read x, left))
    (margin : Nat) {before : Option Char} (hbefore : before.any Text.isWord = false) :
    firstFrom m before (propertyLines margin properties) = o.map read := by
  -- Line by line: that of another key is passed over, that of the key ends the search.
  induction properties generalizing before with
  | nil =>
    obtain rfl : o = none := by simpa using hlookup.symm
    rfl
  | cons p properties ih =>
    obtain ⟨other, value⟩ := p
    obtain ⟨hother, hvalue⟩ := hproperties (other, value) (by simp)
    have hrest := fun p hp => hproperties p (List.mem_cons_of_mem (other, value) hp)
    rw [propertyLines_cons]
    rw [List.lookup_cons] at hlookup
    by_cases hne : key = other
    · subst hne
      obtain ⟨x, rfl, rfl⟩ : ∃ x, o = some x ∧ written x = value := by
        simpa [eq_comm, Option.map_eq_some_iff] using hlookup
      have hpad : ∀ c ∈ List.replicate margin ' ', c = ' ' := fun c => List.eq_of_mem_replicate
      have hword : (lastOf before (List.replicate margin ' ')).any Text.isWord = false := by
        rcases lastOf_pad hpad before with h | h
        · rw [h]
          exact hbefore
        · rw [h]
          decide
      obtain ⟨left, hmatch⟩ := hread x _ (propertyLines margin properties) hword
      have hpasses : Passes m before (List.replicate margin ' ')
          (key.toList ++ ':' :: ' ' :: (written x ++ '\n' :: propertyLines margin properties)) := by
        refine passes_of_forall (fun b c hc cs => hm _ _ ?_) _ _
        rw [hpad c hc]
        exact property?_cons hkey (by decide) b cs
      have htext : fieldLine margin key.toList (written x) ++ propertyLines margin properties
          = List.replicate margin ' ' ++ (key.toList
            ++ ':' :: ' ' :: (written x ++ '\n' :: propertyLines margin properties)) := by
        simp [fieldLine, line]
      rw [htext, firstFrom_of_passes hpasses, firstFrom_of_match (by simp) hmatch]
      rfl
    · have hpasses := passes_line hm hkey hother hne hvalue
        (skipBlank_propertyLines (fun p hp => (hrest p hp).1) margin) margin before
      rw [show (key == other) = false by simpa using hne] at hlookup
      rw [firstFrom_of_passes hpasses, fieldLine, lastOf_line]
      exact ih hrest hlookup (by decide)

theorem first?_propertyLines {β : Type} (hm : Needs m key) (hkey : IsKey key)
    (hproperties : ∀ p ∈ properties, IsKey p.1 ∧ ':' ∉ p.2) {o : Option β} {written : β → List Char}
    {read : β → α} (hlookup : properties.lookup key = o.map written)
    (hread : ∀ x before rest, before.any Text.isWord = false →
      ∃ left, m before (key.toList ++ ':' :: ' ' :: (written x ++ '\n' :: rest))
        = some (read x, left))
    (margin : Nat) : m.first? ('\n' :: propertyLines margin properties) = o.map read := by
  rw [first?, firstFrom_cons_of_none (hm _ _ (property?_cons hkey (by decide) _ _))]
  exact firstFrom_propertyLines hm hkey hproperties hlookup hread margin (by decide)

theorem needs_shapeProperty (key : String) : Needs (shapeProperty key) key := by
  intro before cs h
  simp [shapeProperty, h]

theorem needs_nameList (key : String) : Needs (nameList key) key := by
  intro before cs h
  simp [nameList, h]

theorem needs_version : Needs version "version" := by
  intro before cs h
  simp [version, h]

theorem shapeProperty_ref (key : String) (r : Ref) {before : Option Char}
    (hbefore : before.any Text.isWord = false) (rest : List Char) :
    shapeProperty key before (key.toList ++ ':' :: ' ' :: (r.chars ++ '\n' :: rest))
      = some (r.text, '\n' :: rest) := by
  have hblank : skipBlank (' ' :: (r.chars ++ '\n' :: rest)) = r.chars ++ '\n' :: rest :=
    skipBlank_space fun c hc => isBlank_of_isRefChar (Ref.isRefChar_head hc)
  have htarget : target? (r.chars ++ '\n' :: rest) = some (r.text, '\n' :: rest) :=
    target?_append r (by simp; decide)
  simp only [shapeProperty, property?_self hbefore, Option.bind_eq_bind, Option.bind_some]
  change target? (skipBlank (' ' :: (r.chars ++ '\n' :: rest))) = _
  rw [hblank, htarget]

theorem mem_joinWith_refs {refs : List Ref} {c : Char}
    (h : c ∈ Text.joinWith [',', ' '] (refs.map Ref.chars)) :
    (isRefChar c || c == ',' || c == ' ') = true := by
  rcases Text.mem_joinWith h with hsep | ⟨part, hpart, hc⟩
  · simp only [List.mem_cons, List.not_mem_nil, or_false] at hsep
    rcases hsep with rfl | rfl <;> decide
  · obtain ⟨r, -, rfl⟩ := List.mem_map.mp hpart
    simp [Ref.isRefChar_of_mem hc]

theorem nameList_bracketed (key : String) (refs : List Ref) {before : Option Char}
    (hbefore : before.any Text.isWord = false) (rest : List Char) :
    nameList key before (key.toList ++ ':' :: ' ' :: (bracketed refs ++ '\n' :: rest))
      = some (refs.map Ref.text, '\n' :: rest) := by
  have hparts : ∀ part ∈ refs.map Ref.chars, part ≠ []
      ∧ ∀ c ∈ part, (c == ',' || Text.isBlank c) = false := by
    intro part hpart
    obtain ⟨r, -, rfl⟩ := List.mem_map.mp hpart
    obtain ⟨c, cs, hchars, -⟩ := r.exists_cons
    refine ⟨by simp [hchars], fun c hc => ?_⟩
    have href := Ref.isRefChar_of_mem hc
    simp [ne_of_isRefChar href (show isRefChar ',' = false by decide), isBlank_of_isRefChar href]
  have hinner : ∀ c ∈ Text.joinWith [',', ' '] (refs.map Ref.chars), (c != ']') = true := by
    intro c hc
    have hinside := mem_joinWith_refs hc
    rw [bne_iff_ne]
    rintro rfl
    exact absurd hinside (by decide)
  obtain ⟨htake, hdrop⟩ := Text.takeWhile_dropWhile_append hinner
    (show ∀ c ∈ (']' :: '\n' :: rest).head?, (c != ']') = false by simp)
  have hnames := Text.splitWhere_joinWith (by decide) (by decide) hparts
  have hblank : skipBlank (' ' :: (bracketed refs ++ '\n' :: rest))
      = '[' :: (Text.joinWith [',', ' '] (refs.map Ref.chars) ++ ']' :: '\n' :: rest) := by
    rw [bracketed, List.append_assoc, List.cons_append, List.cons_append, List.nil_append]
    rfl
  simp only [nameList, property?_self hbefore, Option.bind_eq_bind, Option.bind_some, hblank,
    htake, hdrop, hnames]
  simp [Ref.text]

theorem ne_of_isVersionChar {c d : Char} (h : isVersionChar c = true)
    (hd : isVersionChar d = false) : c ≠ d := by
  rintro rfl
  rw [h] at hd
  cases hd

theorem version_quoted (v : Version) {before : Option Char}
    (hbefore : before.any Text.isWord = false) (rest : List Char) :
    version before ("version".toList ++ ':' :: ' ' :: (quoted v ++ '\n' :: rest))
      = some (String.ofList v.chars, '\n' :: rest) := by
  have hinner : ∀ c ∈ v.chars, (c != '"') = true := fun c hc => by
    simpa using ne_of_isVersionChar (v.isVersionChar_chars c hc) (by decide)
  obtain ⟨htake, hdrop⟩ := Text.takeWhile_dropWhile_append hinner
    (show ∀ c ∈ ('"' :: '\n' :: rest).head?, (c != '"') = false by simp)
  have hne : v.chars.isEmpty = false := by simpa using v.ne_nil
  have hblank : skipBlank (' ' :: (quoted v ++ '\n' :: rest))
      = '"' :: (v.chars ++ '"' :: '\n' :: rest) := by
    rw [quoted, List.append_assoc, List.cons_append, List.cons_append, List.nil_append]
    rfl
  simp only [version, property?_self hbefore, Option.bind_eq_bind, Option.bind_some, hblank,
    htake, hdrop, hne]

@[simp] theorem lookup_optional_append {β : Type} (key other : String) (o : Option β)
    (written : β → List Char) (properties : List (String × List Char)) :
    ((o.map fun x => (other, written x)).toList ++ properties).lookup key
      = if key = other then (o.map written).or (properties.lookup key)
        else properties.lookup key := by
  cases o with
  | none => simp
  | some x =>
    by_cases h : key = other
    · simp [h]
    · have hne : (key == other) = false := by simpa using h
      simp [List.lookup_cons, h, hne]

@[simp] theorem lookup_optional {β : Type} (key other : String) (o : Option β)
    (written : β → List Char) :
    (o.map fun x => (other, written x)).toList.lookup key
      = if key = other then o.map written else none := by
  have h := lookup_optional_append key other o written []
  simpa using h

end SmithyGen.Idl
