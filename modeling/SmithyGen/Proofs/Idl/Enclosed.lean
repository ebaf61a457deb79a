import SmithyGen.Idl.Lexeme
import SmithyGen.Proofs.Text

namespace SmithyGen.Idl

/-- What stands between the quotes of a string literal: a backslash takes the character after it
along. -/
inductive StringBody : List Char → Prop
  | nil : StringBody []
  | escape {c : Char} {cs : List Char} (hc : c ≠ '\n') (h : StringBody cs) :
      StringBody ('\\' :: c :: cs)
  | plain {c : Char} {cs : List Char} (hquote : c ≠ '"') (hslash : c ≠ '\\') (h : StringBody cs) :
      StringBody (c :: cs)

namespace StringBody

theorem of_forall {cs : List Char} (h : ∀ c ∈ cs, c ≠ '"' ∧ c ≠ '\\') : StringBody cs := by
  induction cs with
  | nil => exact nil
  | cons c cs ih =>
    obtain ⟨hquote, hslash⟩ := h c (by simp)
    exact plain hquote hslash (ih fun d hd => h d (List.mem_cons_of_mem c hd))

theorem stringTail?_append {body : List Char} (h : StringBody body) (rest : List Char) :
    stringTail? (body ++ '"' :: rest) = some (body ++ ['"'], rest) := by
  induction h with
  | nil => rfl
  | escape hc h ih => simp [stringTail?, hc, ih]
  | @plain c cs hquote hslash h ih =>
    have hstep : stringTail? (c :: (cs ++ '"' :: rest))
        = (stringTail? (cs ++ '"' :: rest)).map fun p => (c :: p.1, p.2) := by
      rw [stringTail?]
      all_goals simp [hquote, hslash]
    rw [List.cons_append, hstep, ih]
    rfl

theorem literal?_append {body : List Char} (h : StringBody body) (rest : List Char) :
    literal? ('"' :: (body ++ '"' :: rest)) = some ('"' :: (body ++ ['"']), rest) := by
  rw [literal?, h.stringTail?_append]
  rfl

end StringBody

/-- Text after which its reader stands outside of string literals, still before the closing
character. -/
def Continues (close : Char) (refused : Char → Bool) (xs : List Char) : Prop :=
  ∀ ys, enclosedFrom close refused .outside (xs ++ ys)
    = (enclosedFrom close refused .outside ys).map fun (text, rest) => (xs ++ text, rest)

namespace Continues

variable {close : Char} {refused : Char → Bool}

theorem nil : Continues close refused [] := by
  intro ys
  simp

theorem append {xs xs' : List Char} (h : Continues close refused xs)
    (h' : Continues close refused xs') : Continues close refused (xs ++ xs') := by
  intro ys
  rw [List.append_assoc, h, h', Option.map_map]
  simp [Function.comp_def]

theorem flatMap {β : Type} {f : β → List Char} {bs : List β}
    (h : ∀ b ∈ bs, Continues close refused (f b)) : Continues close refused (bs.flatMap f) := by
  induction bs with
  | nil => exact nil
  | cons b bs ih =>
    exact append (h b (by simp)) (ih fun b' hb => h b' (List.mem_cons_of_mem b hb))

theorem joinWith {sep : List Char} {parts : List (List Char)} (hsep : Continues close refused sep)
    (hparts : ∀ part ∈ parts, Continues close refused part) :
    Continues close refused (Text.joinWith sep parts) := by
  induction parts with
  | nil => exact nil
  | cons part parts ih =>
    have hrest := ih fun p hp => hparts p (List.mem_cons_of_mem part hp)
    cases parts with
    | nil => exact hparts part (by simp)
    | cons next parts =>
      rw [Text.joinWith_cons_cons]
      exact append (append (hparts part (by simp)) hsep) hrest

theorem of_forall {xs : List Char}
    (h : ∀ c ∈ xs, c ≠ '"' ∧ c ≠ close ∧ refused c = false) : Continues close refused xs := by
  induction xs with
  | nil => exact nil
  | cons c xs ih =>
    obtain ⟨hquote, hclose, hrefused⟩ := h c (by simp)
    intro ys
    have hrest := ih (fun d hd => h d (List.mem_cons_of_mem c hd)) ys
    have hstep : enclosedFrom close refused .outside (c :: (xs ++ ys))
        = (enclosedFrom close refused .outside (xs ++ ys)).map fun p => (c :: p.1, p.2) := by
      simp [enclosedFrom, Place.next, hquote, hclose, hrefused]
    rw [List.cons_append, hstep, hrest, Option.map_map]
    rfl

theorem enclosedFrom_string {body : List Char} (h : StringBody body) (ys : List Char) :
    enclosedFrom close refused .inString (body ++ '"' :: ys)
      = (enclosedFrom close refused .outside ys).map fun (text, rest) =>
        (body ++ '"' :: text, rest) := by
  induction h with
  | nil => simp [enclosedFrom, Place.next]
  | escape hc h ih =>
    simp [enclosedFrom, Place.next, hc, ih, Option.map_map, Function.comp_def]
  | plain hquote hslash h ih =>
    simp [enclosedFrom, Place.next, hquote, hslash, ih, Option.map_map, Function.comp_def]

theorem literal {body : List Char} (hclose : '"' ≠ close) (hrefused : refused '"' = false)
    (h : StringBody body) : Continues close refused ('"' :: (body ++ ['"'])) := by
  intro ys
  have hopen : enclosedFrom close refused .outside ('"' :: (body ++ '"' :: ys))
      = (enclosedFrom close refused .inString (body ++ '"' :: ys)).map
        fun p => ('"' :: p.1, p.2) := by
    simp [enclosedFrom, Place.next, hclose, hrefused]
  have hassoc : '"' :: (body ++ ['"']) ++ ys = '"' :: (body ++ '"' :: ys) := by simp
  rw [hassoc, hopen, enclosedFrom_string h, Option.map_map]
  simp [Function.comp_def]

theorem enclosedFrom_close {xs : List Char} (h : Continues close refused xs) (rest : List Char) :
    enclosedFrom close refused .outside (xs ++ close :: rest) = some (xs, rest) := by
  rw [h]
  simp [enclosedFrom]

end Continues

end SmithyGen.Idl
