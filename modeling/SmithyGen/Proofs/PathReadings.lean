import SmithyGen.Proofs.Idl.Words
import SmithyGen.Proofs.PathExpression

namespace SmithyGen.UriTemplate

open Code

/-- A piece of a URI template: text without braces, or a label. -/
inductive Segment where
  | text (chars : List Char) (isPlain : ∀ c ∈ chars, c ≠ '\x7b' ∧ c ≠ '\x7d')
  | label (name : Idl.Ident) (isGreedy : Bool)

namespace Segment

def labelText (mark : List Char) (name : Idl.Ident) (isGreedy : Bool) : List Char :=
  name.chars ++ if isGreedy then mark else []

def parts (mark : List Char) : Segment → List Part
  | .text chars _ => chars.map .char
  | .label name isGreedy => [.label (labelText mark name isGreedy)]

def chars (mark : List Char) (s : Segment) : List Char := (s.parts mark).flatMap Part.chars

def label? : Segment → Option (Idl.Ident × Bool)
  | .text _ _ => none
  | .label name isGreedy => some (name, isGreedy)

end Segment

def written (mark : String) (segments : List Segment) : String :=
  String.ofList (segments.flatMap (Segment.chars mark.toList))

/-- The names in a route: those of its labels up to the colon of a converter. -/
def routeParams (route : String) : List String :=
  (labels route.toList).map fun l => String.ofList (l.takeWhile (· != ':'))

theorem label?_append {text rest : List Char} (hne : text ≠ []) (h : '\x7d' ∉ text) :
    label? ('\x7b' :: (text ++ '\x7d' :: rest)) = some (text, rest) := by
  have hopen : ∀ c ∈ text, (c != '\x7d') = true := fun c hc =>
    bne_iff_ne.mpr fun heq => h (heq ▸ hc)
  obtain ⟨htake, hdrop⟩ : (text ++ '\x7d' :: rest).takeWhile (· != '\x7d') = text
      ∧ (text ++ '\x7d' :: rest).dropWhile (· != '\x7d') = '\x7d' :: rest :=
    Text.takeWhile_dropWhile_append hopen (by simp)
  obtain ⟨c, cs, rfl⟩ := List.exists_cons_of_ne_nil hne
  rw [label?, htake, hdrop]
  rfl

def Part.IsFound : Part → Prop
  | .char c => c ≠ '\x7b'
  | .label text => text ≠ [] ∧ '\x7d' ∉ text

/-- The labels of a text written in parts are those among the parts. -/
theorem labels_flatMap_chars {ps : List Part} (h : ∀ p ∈ ps, p.IsFound) :
    labels (ps.flatMap Part.chars) = ps.filterMap Part.label? := by
  have hfrom : ∀ before, Matcher.allFrom (fun _ => label?) 0 before (ps.flatMap Part.chars)
      = ps.filterMap Part.label? := by
    induction ps with
    | nil => exact fun _ => rfl
    | cons p ps ih =>
      intro before
      have hrest := ih fun q hq => h q (List.mem_cons_of_mem _ hq)
      have hp : p.IsFound := h p (by simp)
      rw [List.flatMap_cons]
      cases p with
      | char c =>
        have hnone : label? (c :: ps.flatMap Part.chars) = none := by
          unfold label?
          split
          · next heq => exact absurd (List.cons.inj heq).1 hp
          · rfl
        exact (Matcher.allFrom_cons_of_none hnone).trans (hrest _)
      | label text =>
        obtain ⟨hne, hclose⟩ := hp
        have hmatch : label? ((Part.label text).chars ++ ps.flatMap Part.chars)
            = some (text, ps.flatMap Part.chars) := by
          have hassoc : (Part.label text).chars ++ ps.flatMap Part.chars
              = '\x7b' :: (text ++ '\x7d' :: ps.flatMap Part.chars) := by simp [Part.chars]
          rw [hassoc, label?_append hne hclose]
        rw [Matcher.allFrom_of_match (by simp [Part.chars]) hmatch, hrest]
        rfl
  exact hfrom none

section Marked

variable {mark : List Char}

theorem not_mem_labelText {c : Char} (hname : Idl.isNameChar c = false) (hmark : c ∉ mark)
    (name : Idl.Ident) (isGreedy : Bool) : c ∉ Segment.labelText mark name isGreedy := by
  intro hc
  rcases List.mem_append.mp hc with hc | hc
  · rw [Idl.Ident.isNameChar_of_mem hc] at hname
    cases hname
  · cases isGreedy with
    | true => exact hmark hc
    | false => cases hc

theorem isFound_of_mem_parts (hmark : '\x7d' ∉ mark) {s : Segment} {p : Part}
    (hp : p ∈ s.parts mark) : p.IsFound := by
  cases s with
  | text chars isPlain =>
    obtain ⟨c, hc, rfl⟩ := List.mem_map.mp hp
    exact (isPlain c hc).1
  | label name isGreedy =>
    obtain rfl := List.mem_singleton.mp hp
    exact ⟨by simp [Segment.labelText, Idl.Ident.chars], not_mem_labelText (by decide) hmark _ _⟩

theorem labels_written {mark : String} (hmark : '\x7d' ∉ mark.toList) (segments : List Segment) :
    labels (written mark segments).toList
      = (segments.filterMap Segment.label?).map fun l =>
          Segment.labelText mark.toList l.1 l.2 := by
  have hlabels : (segments.flatMap (Segment.parts mark.toList)).filterMap Part.label?
      = (segments.filterMap Segment.label?).map fun l =>
          Segment.labelText mark.toList l.1 l.2 := by
    induction segments with
    | nil => rfl
    | cons s segments ih =>
      rw [List.flatMap_cons, List.filterMap_append, ih]
      cases s with
      | text chars isPlain =>
        have hnone : (chars.map Part.char).filterMap Part.label? = [] := by
          rw [List.filterMap_map, List.filterMap_eq_nil_iff]
          exact fun _ _ => rfl
        rw [Segment.parts, hnone]
        rfl
      | label name isGreedy => rfl
  have hparts : segments.flatMap (Segment.chars mark.toList)
      = (segments.flatMap (Segment.parts mark.toList)).flatMap Part.chars := by
    rw [List.flatMap_assoc]
    rfl
  rw [written, String.toList_ofList, hparts, labels_flatMap_chars, hlabels]
  intro p hp
  obtain ⟨s, -, hp⟩ := List.mem_flatMap.mp hp
  exact isFound_of_mem_parts hmark hp

end Marked

theorem labelName_labelText (name : Idl.Ident) (isGreedy : Bool) :
    labelName (Segment.labelText "+".toList name isGreedy) = name.text := by
  have hplus : '+' ∉ name.chars := fun h =>
    absurd (Idl.Ident.isNameChar_of_mem h) (by decide)
  have hlast : ∀ c ∈ name.chars.reverse.head?, (c == '+') = false := by
    intro c hc
    simpa using fun heq : c = '+' => hplus (heq ▸ List.mem_reverse.mp (List.mem_of_head? hc))
  have hmark : ∀ c ∈ (if isGreedy then "+".toList else []).reverse, (c == '+') = true := by
    cases isGreedy <;> simp
  rw [labelName, Segment.labelText, Text.dropWhileEnd, List.reverse_append,
    (Text.takeWhile_dropWhile_append hmark hlast).2, List.reverse_reverse, Idl.Ident.text]

theorem isGreedy_labelText (name : Idl.Ident) (greedy : Bool) :
    isGreedy (Segment.labelText "+".toList name greedy) = greedy := by
  cases greedy with
  | true => simp [isGreedy, Segment.labelText]
  | false =>
    have hplus : '+' ∉ name.chars := fun h =>
      absurd (Idl.Ident.isNameChar_of_mem h) (by decide)
    have hlast : name.chars.getLast? ≠ some '+' := fun h => hplus (List.mem_of_getLast? h)
    simp [isGreedy, Segment.labelText, hlast]

theorem takeWhile_colon_labelText (name : Idl.Ident) (isGreedy : Bool) :
    (Segment.labelText ":path".toList name isGreedy).takeWhile (· != ':') = name.chars := by
  have hname : ∀ c ∈ name.chars, (c != ':') = true := fun c hc =>
    bne_iff_ne.mpr fun heq => absurd (Idl.Ident.isNameChar_of_mem (heq ▸ hc)) (by decide)
  refine (Text.takeWhile_dropWhile_append hname ?_).1
  cases isGreedy <;> simp

theorem head?_written_ne (mark : List Char) (segments : List Segment) :
    (segments.flatMap (Segment.chars mark)).head? ≠ some '\x7d' := by
  induction segments with
  | nil => simp
  | cons s segments ih =>
    rw [List.flatMap_cons]
    cases s with
    | text chars isPlain =>
      cases chars with
      | nil => exact ih
      | cons c chars => simpa [Segment.chars, Segment.parts, Part.chars] using (isPlain c (by simp)).2
    | label name isGreedy => simp [Segment.chars, Segment.parts, Part.chars]

theorem replace_pair_append {a b : Char} {xs ys : List Char}
    (h : ∀ back, a :: back <:+ xs → (back ++ ys).head? ≠ some b) (new : List Char) :
    Text.replace [a, b] new (xs ++ ys) = xs ++ Text.replace [a, b] new ys := by
  refine Text.replace_append_of_forall (fun c back hsuffix hprefix => ?_) new
  obtain ⟨rest, hrest⟩ := hprefix
  obtain ⟨rfl, htail⟩ := List.cons.inj hrest
  exact h back hsuffix (by rw [← htail]; rfl)

theorem replace_written (segments : List Segment) :
    Text.replace "+\x7d".toList ":path\x7d".toList (segments.flatMap (Segment.chars "+".toList))
      = segments.flatMap (Segment.chars ":path".toList) := by
  have hpair : "+\x7d".toList = ['+', '\x7d'] := rfl
  rw [hpair]
  induction segments with
  | nil => rfl
  | cons s segments ih =>
    have hhead := head?_written_ne "+".toList segments
    rw [List.flatMap_cons, List.flatMap_cons, ← ih]
    generalize segments.flatMap (Segment.chars "+".toList) = rest at hhead
    cases s with
    | text chars isPlain =>
      have hchars : ∀ mark, (Segment.text chars isPlain).chars mark = chars := by
        intro mark
        simp [Segment.chars, Segment.parts, List.flatMap_map, Part.chars]
      rw [hchars, hchars]
      -- A plus sign at the end of a text is no mark: the brace after it opens a label, if any.
      refine replace_pair_append (fun back hsuffix => ?_) _
      cases back with
      | nil => exact hhead
      | cons c back =>
        have hc : c ∈ chars := hsuffix.subset (by simp)
        simpa using (isPlain c hc).2
    | label name isGreedy =>
      have hchars : ∀ mark, (Segment.label name isGreedy).chars mark
          = ('\x7b' :: name.chars) ++ ((if isGreedy then mark else []) ++ ['\x7d']) := by
        intro mark
        simp [Segment.chars, Segment.parts, Part.chars, Segment.labelText]
      have hplus : '+' ∉ '\x7b' :: name.chars := by
        intro h
        rcases List.mem_cons.mp h with h | h
        · exact absurd h (by decide)
        · exact absurd (Idl.Ident.isNameChar_of_mem h) (by decide)
      rw [hchars, hchars, List.append_assoc, List.append_assoc, List.append_assoc,
        replace_pair_append fun back hsuffix => absurd (hsuffix.subset (by simp)) hplus]
      congr 1
      cases isGreedy with
      | true => exact Text.replace_append (by decide) _ _
      | false => exact Text.replace_cons (by rintro ⟨t, ht⟩; simp at ht) _

theorem symbols_pathExpression (uri : String) (bound : List String) :
    symbols (pathExpression uri bound).toList = [pathSymbol uri bound] := by
  have hspelled : Spelled [pathSymbol uri bound] := by
    refine .of_all ?_ rfl
    unfold pathSymbol
    split_ifs <;> rfl
  have hspell : (pathExpression uri bound).toList = spell [pathSymbol uri bound] := by
    rw [toList_pathExpression]
    simp [spell]
  rw [hspell, symbols_spell hspelled]
  unfold pathSymbol
  split_ifs <;> rfl

theorem boundLabels_params (uri : String) : boundLabels uri (params uri) = labels uri.toList := by
  refine List.filter_eq_self.mpr fun l hl => List.contains_iff_mem.mpr ?_
  exact List.mem_map_of_mem hl

/-- All readings of a template find the same labels in the same order. The parameters are their
names; the route is the template with greedy labels written as path converters, and has the same
parameters; and the expression of the path has one field for each label, greedy where the label
is. -/
theorem readings_agree (segments : List Segment) :
    let uri := written "+" segments
    let found := segments.filterMap Segment.label?
    params uri = found.map (·.1.text)
      ∧ route uri = written ":path" segments
      ∧ routeParams (route uri) = params uri
      ∧ pathLabels? (symbols (pathExpression uri (params uri)).toList)
          = some (found.map fun l => (l.1.text, l.2)) := by
  intro uri found
  have hlabels : labels uri.toList
      = found.map fun l => Segment.labelText "+".toList l.1 l.2 :=
    labels_written (by decide) segments
  have hparams : params uri = found.map (·.1.text) := by
    rw [params, hlabels, List.map_map]
    exact List.map_congr_left fun l _ => labelName_labelText l.1 l.2
  have hroute : route uri = written ":path" segments := by
    have hchars : uri.toList = segments.flatMap (Segment.chars "+".toList) := String.toList_ofList
    exact congrArg String.ofList (by rw [hchars, replace_written])
  refine ⟨hparams, hroute, ?_, ?_⟩
  · rw [hroute, hparams, routeParams, labels_written (by decide), List.map_map]
    refine List.map_congr_left fun l _ => ?_
    exact congrArg String.ofList (takeWhile_colon_labelText l.1 l.2)
  · rw [symbols_pathExpression, pathLabels?_pathSymbol, boundLabels_params, hlabels, List.map_map]
    refine congrArg some (List.map_congr_left fun l _ => ?_)
    exact Prod.ext (labelName_labelText l.1 l.2) (isGreedy_labelText l.1 l.2)

end SmithyGen.UriTemplate
