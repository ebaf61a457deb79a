import Mathlib.Data.List.TakeWhile
import SmithyGen.Template
import SmithyGen.Proofs.Outcome

namespace SmithyGen.Template

inductive Piece where
  | text (s : String)
  | field (name : String) (conversion : Option Char)
deriving DecidableEq, Repr

namespace Piece

def isNameChar (c : Char) : Bool := c.isAlpha || c == '_'

def isSound : Piece → Bool
  | .text s => s.toList.all fun c => c != '\x7b' && c != '\x7d'
  | .field name _ => name.toList.head?.isSome && name.toList.all isNameChar

def source : Piece → List Char
  | .text s => s.toList
  | .field name conversion =>
    '\x7b' :: (name.toList ++ (conversion.elim [] (['!', ·]) ++ ['\x7d']))

def fill (expand : List Char → Except Fault (List Char)) (params : Entries Subject) :
    Piece → Except Fault (List Char)
  | .text s => .ok s.toList
  | .field name conversion => Field.fill expand params ⟨name.toList, conversion, []⟩

end Piece

theorem path_append {name rest : List Char} {c : Char} (h : ∀ d ∈ name, Piece.isNameChar d = true)
    (hc : c = '\x7d' ∨ c = '!') : path false (name ++ c :: rest) = .ok (name, c :: rest) := by
  induction name with
  | nil => rcases hc with rfl | rfl <;> rfl
  | cons d name ih =>
    have hd : d ≠ '\x7b' ∧ d ≠ '\x7d' ∧ d ≠ '!' ∧ d ≠ ':' ∧ d ≠ '[' := by
      have hd := h d (by simp)
      refine ⟨?_, ?_, ?_, ?_, ?_⟩ <;> (rintro rfl; exact absurd hd (by decide))
    have hrest := ih fun e he => h e (List.mem_cons_of_mem _ he)
    have hb : (d == '[') = false := by simp [hd]
    simp [path, hd, hb, hrest, Except.map]

theorem field_append {name : List Char} (h : ∀ d ∈ name, Piece.isNameChar d = true)
    (conversion : Option Char) (rest : List Char) :
    field (name ++ (conversion.elim [] (['!', ·]) ++ '\x7d' :: rest))
      = .ok (⟨name, conversion, []⟩, rest) := by
  cases conversion with
  | none =>
    refine Outcome.bind_eq_ok.mpr ⟨_, path_append h (Or.inl rfl), ?_⟩
    rfl
  | some c =>
    refine Outcome.bind_eq_ok.mpr ⟨_, path_append h (Or.inr rfl), ?_⟩
    rfl

variable {expand : List Char → Except Fault (List Char)} {params : Entries Subject}

theorem fillFrom_text {cs rest out : List Char} (h : ∀ c ∈ cs, c ≠ '\x7b' ∧ c ≠ '\x7d')
    (hrest : fillFrom expand params 0 rest = .ok out) :
    fillFrom expand params 0 (cs ++ rest) = .ok (cs ++ out) := by
  induction cs with
  | nil => exact hrest
  | cons c cs ih =>
    have hc := h c (by simp)
    have hcs := ih fun d hd => h d (List.mem_cons_of_mem _ hd)
    rw [List.cons_append, fillFrom, hcs]
    · rfl
    all_goals simp_all

theorem fillFrom_drop (expand : List Char → Except Fault (List Char)) (params : Entries Subject)
    (x rest : List Char) :
    fillFrom expand params x.length (x ++ rest) = fillFrom expand params 0 rest := by
  induction x with
  | nil => rfl
  | cons c x ih => exact ih

theorem fillFrom_field {c : Char} {body rest text out : List Char} {f : Field} (hc : c ≠ '\x7b')
    (hf : field (c :: (body ++ rest)) = .ok (f, rest)) (ht : f.fill expand params = .ok text)
    (hrest : fillFrom expand params 0 rest = .ok out) :
    fillFrom expand params 0 ('\x7b' :: c :: (body ++ rest)) = .ok (text ++ out) := by
  have hl : (c :: (body ++ rest)).length - rest.length = (c :: body).length := by
    simp only [List.length_cons, List.length_append]
    omega
  rw [fillFrom]
  · rw [hf]
    refine Outcome.bind_eq_ok.mpr ⟨_, rfl, Outcome.bind_eq_ok.mpr ⟨_, ht, ?_⟩⟩
    refine Outcome.bind_eq_ok.mpr ⟨out, ?_, rfl⟩
    rw [hl, ← List.cons_append, fillFrom_drop]
    exact hrest
  all_goals simp_all

theorem Piece.fillFrom_source {p : Piece} (hp : p.isSound = true) {rest text out : List Char}
    (ht : p.fill expand params = .ok text) (hrest : fillFrom expand params 0 rest = .ok out) :
    fillFrom expand params 0 (p.source ++ rest) = .ok (text ++ out) := by
  cases p with
  | text s =>
    obtain rfl : s.toList = text := Except.ok.inj ht
    refine fillFrom_text ?_ hrest
    intro c hc
    simpa [isSound] using List.all_eq_true.mp hp c hc
  | field name conversion =>
    simp only [isSound, Bool.and_eq_true, List.all_eq_true] at hp
    have hf := field_append hp.2 conversion rest
    cases hn : name.toList with
    | nil => simp [hn] at hp
    | cons c cs =>
      have hc : c ≠ '\x7b' := by
        rintro rfl
        exact absurd (hp.2 '\x7b' (by simp [hn])) (by decide)
      rw [hn] at hf
      have hsource : (field name conversion).source ++ rest
          = '\x7b' :: c :: ((cs ++ (conversion.elim [] (['!', ·]) ++ ['\x7d'])) ++ rest) := by
        simp [source, hn]
      rw [hsource]
      refine fillFrom_field hc ?_ ht hrest
      simpa [hn] using hf

/-- A template in pieces is filled piece by piece. -/
theorem fillFrom_pieces {ps : List Piece} (hp : ∀ p ∈ ps, p.isSound = true)
    {texts : List (List Char)} (ht : ps.mapM (Piece.fill expand params) = .ok texts) :
    fillFrom expand params 0 (ps.flatMap Piece.source) = .ok texts.flatten := by
  induction ps generalizing texts with
  | nil =>
    obtain rfl : [] = texts := Except.ok.inj ht
    rfl
  | cons p ps ih =>
    rw [List.mapM_cons] at ht
    obtain ⟨text, htext, ht⟩ := Outcome.bind_eq_ok.mp ht
    obtain ⟨more, hmore, ht⟩ := Outcome.bind_eq_ok.mp ht
    obtain rfl : text :: more = texts := Except.ok.inj ht
    have hrest := ih (fun q hq => hp q (List.mem_cons_of_mem _ hq)) hmore
    exact Piece.fillFrom_source (hp p (by simp)) htext hrest

theorem fill_pieces {s : String} {ps : List Piece} (hs : s.toList = ps.flatMap Piece.source)
    (hp : ∀ p ∈ ps, p.isSound = true) {texts : List (List Char)}
    (ht : ps.mapM (Piece.fill (fillTo params 1) params) = .ok texts) :
    fill params s = .ok (String.ofList texts.flatten) := by
  rw [fill, hs, fillTo, fillFrom_pieces hp ht]
  rfl

theorem fill_text {s : String} (h : (Piece.text s).isSound = true) : fill params s = .ok s := by
  have hs : s.toList = [Piece.text s].flatMap Piece.source := by simp [Piece.source]
  have hf : fill params s = .ok (String.ofList [s.toList].flatten) :=
    fill_pieces hs (by simpa using h) rfl
  simpa using hf

section Filled

/-- The pieces of a template; `name` is what has been read of a field, last character first. -/
def piecesFrom : (name : Option (List Char)) → List Char → Option (List Piece)
  | none, [] => some []
  | none, '\x7b' :: cs => piecesFrom (some []) cs
  | none, '\x7d' :: _ => none
  | none, c :: cs => (piecesFrom none cs).map (.text (String.ofList [c]) :: ·)
  | some _, [] => none
  | some name, '\x7d' :: cs =>
    (piecesFrom none cs).map (.field (String.ofList name.reverse) none :: ·)
  | some name, '!' :: c :: '\x7d' :: cs =>
    (piecesFrom none cs).map (.field (String.ofList name.reverse) (some c) :: ·)
  | some name, c :: cs => piecesFrom (some (c :: name)) cs

theorem eq_of_piecesFrom {name : Option (List Char)} {cs : List Char} {ps : List Piece}
    (h : piecesFrom name cs = some ps) :
    (name.elim [] fun name => '\x7b' :: name.reverse) ++ cs = ps.flatMap Piece.source := by
  induction name, cs using piecesFrom.induct generalizing ps with
  | case1 =>
    obtain rfl := Option.some.inj h
    rfl
  | case2 cs ih => simpa [piecesFrom] using ih h
  | case3 => cases h
  | case4 c cs hopen hclose ih =>
    obtain ⟨rest, hrest, rfl⟩ := Option.map_eq_some_iff.mp (by simpa [piecesFrom] using h)
    simpa [Piece.source] using ih hrest
  | case5 => cases h
  | case6 name cs ih =>
    obtain ⟨rest, hrest, rfl⟩ := Option.map_eq_some_iff.mp (by simpa [piecesFrom] using h)
    simpa [Piece.source] using ih hrest
  | case7 name c cs ih =>
    obtain ⟨rest, hrest, rfl⟩ := Option.map_eq_some_iff.mp (by simpa [piecesFrom] using h)
    simpa [Piece.source] using ih hrest
  | case8 name c cs hclose hmark ih =>
    rw [piecesFrom] at h
    · simpa using ih h
    · exact hclose
    · exact hmark

/-- Whether a piece is filled from parameters with these keys, whatever their values. -/
def Piece.isFilledBy (keys : List String) : Piece → Bool
  | .text _ => true
  | .field name conversion =>
    keys.contains name && (conversion.isNone || conversion == some 'r')
      && match index? name.toList with
        | .ok none => true
        | _ => false

def isFilledBy (keys : List String) (s : String) : Bool :=
  (piecesFrom none s.toList).elim false fun ps => ps.all fun p => p.isSound && p.isFilledBy keys

theorem resolve_isOk {name : String} (hname : (Piece.field name none).isSound = true)
    (hindex : index? name.toList = .ok none) {s : Subject} (hs : params.get? name = some s) :
    resolve params name.toList = .ok s := by
  simp only [Piece.isSound, Bool.and_eq_true, List.all_eq_true] at hname
  have hfirst : name.toList.takeWhile (!isAccess ·) = name.toList := by
    rw [List.takeWhile_eq_self_iff]
    intro c hc
    have hchar := hname.2 c hc
    have hdot : c ≠ '.' := by
      rintro rfl
      exact absurd hchar (by decide)
    have hbracket : c ≠ '[' := by
      rintro rfl
      exact absurd hchar (by decide)
    simp [isAccess, hdot, hbracket]
  have hne : name.toList.isEmpty = false := by
    cases hcs : name.toList with
    | nil => simp [hcs] at hname
    | cons c cs => rfl
  have hname' : String.ofList name.toList = name := String.ofList_toList
  simp [resolve, hfirst, hindex, hne, hname', hs, Except.mapError, walk]
  rfl

theorem Subject.format_nil (s : Subject) : ∃ text, s.format [] = .ok text := by
  cases s with
  | type name => exact ⟨_, rfl⟩
  | value form v => cases v <;> exact ⟨_, rfl⟩

theorem Piece.fill_isOk {p : Piece} (hp : p.isSound = true)
    (hfilled : p.isFilledBy params.keys = true) : ∃ text, p.fill expand params = .ok text := by
  cases p with
  | text s => exact ⟨s.toList, rfl⟩
  | field name conversion =>
    simp only [isFilledBy, Bool.and_eq_true, List.contains_iff_mem] at hfilled
    obtain ⟨⟨hkey, hconversion⟩, hindex⟩ := hfilled
    have hindex' : index? name.toList = .ok none := by
      split at hindex
      next h => exact h
      next => cases hindex
    obtain ⟨entry, hentry, rfl⟩ := List.mem_map.mp hkey
    obtain ⟨s, hs⟩ := Option.isSome_iff_exists.mp
      (List.lookup_isSome_iff.mpr ⟨entry, hentry, beq_self_eq_true entry.1⟩)
    have hresolve : resolve params entry.1.toList = .ok s := resolve_isOk hp hindex' hs
    have hconvert : ∃ s', s.convert conversion = .ok s' := by
      rcases conversion with - | mark
      · exact ⟨s, rfl⟩
      · obtain rfl : mark = 'r' := by simpa using hconversion
        exact ⟨_, rfl⟩
    obtain ⟨s', hs'⟩ := hconvert
    obtain ⟨text, htext⟩ := s'.format_nil
    exact ⟨text, Outcome.bind_eq_ok.mpr ⟨s, hresolve, Outcome.bind_eq_ok.mpr ⟨s', hs',
      Outcome.bind_eq_ok.mpr ⟨[], rfl, htext⟩⟩⟩⟩

/-- A template is filled where its fields are among the parameters. -/
theorem fill_isOk {s : String} (h : isFilledBy params.keys s = true) :
    ∃ text, fill params s = .ok text := by
  unfold isFilledBy at h
  cases hps : piecesFrom none s.toList with
  | none => simp [hps] at h
  | some ps =>
    simp only [hps, Option.elim_some, List.all_eq_true, Bool.and_eq_true] at h
    have hpieces : ∀ p ∈ ps, ∃ text, p.fill (fillTo params 1) params = .ok text :=
      fun p hp => Piece.fill_isOk (h p hp).1 (h p hp).2
    obtain ⟨texts, htexts⟩ := Outcome.mapM_isOk hpieces
    exact ⟨_, fill_pieces (eq_of_piecesFrom hps) (fun p hp => (h p hp).1) htexts⟩

end Filled

end SmithyGen.Template
