import Mathlib.Data.List.Forall2
import Mathlib.Data.List.Perm.Basic
import SmithyGen.Logged

namespace SmithyGen.Outcome

variable {α β γ ε : Type}

theorem bind_eq_ok {x : Except ε α} {f : α → Except ε β} {b : β} :
    (x >>= f) = .ok b ↔ ∃ a, x = .ok a ∧ f a = .ok b := by
  cases x with
  | error e => simp [bind, Except.bind]
  | ok a => simp [bind, Except.bind]

theorem bind_eq_error {x : Except ε α} {f : α → Except ε β} {e : ε} :
    (x >>= f) = .error e ↔ x = .error e ∨ ∃ a, x = .ok a ∧ f a = .error e := by
  cases x with
  | error e => simp [bind, Except.bind]
  | ok a => simp [bind, Except.bind]

theorem map_eq_ok {x : Except ε α} {f : α → β} {b : β} :
    x.map f = .ok b ↔ ∃ a, x = .ok a ∧ f a = b := by
  cases x with
  | error e => simp [Except.map]
  | ok a => simp [Except.map]

theorem bind_isOk {x : Except ε α} {f : α → Except ε β} (hx : ∃ a, x = .ok a)
    (hf : ∀ a, ∃ b, f a = .ok b) : ∃ b, (x >>= f) = .ok b := by
  obtain ⟨a, ha⟩ := hx
  obtain ⟨b, hb⟩ := hf a
  exact ⟨b, bind_eq_ok.mpr ⟨a, ha, hb⟩⟩

/-- What each step of a fold preserves, the whole preserves. -/
theorem foldlM_induction {motive : β → Prop} {f : β → α → Except ε β} {xs : List α} {b b' : β}
    (hstep : ∀ x ∈ xs, ∀ b b', f b x = .ok b' → motive b → motive b')
    (h : xs.foldlM f b = .ok b') (hb : motive b) : motive b' := by
  induction xs generalizing b with
  | nil =>
    obtain rfl : b = b' := by simpa [pure, Except.pure] using h
    exact hb
  | cons x xs ih =>
    rw [List.foldlM_cons, bind_eq_ok] at h
    obtain ⟨b₁, hx, h⟩ := h
    have hb₁ : motive b₁ := hstep x (by simp) b b₁ hx hb
    exact ih (fun y hy => hstep y (List.mem_cons_of_mem _ hy)) h hb₁

/-- A fold whose steps read something before they change anything reads it all first. -/
theorem foldlM_eq_map_mapM {f : β → α → Except ε β} {g : α → Except ε γ} {h : β → γ → β}
    (hf : ∀ b x, f b x = (g x).map (h b)) (xs : List α) (b : β) :
    xs.foldlM f b = (xs.mapM g).map (List.foldl h b) := by
  induction xs generalizing b with
  | nil => rfl
  | cons x xs ih =>
    rw [List.foldlM_cons, List.mapM_cons, hf]
    cases g x with
    | error e => rfl
    | ok c =>
      change xs.foldlM f (h b c) = _
      rw [ih]
      cases xs.mapM g with
      | error e => rfl
      | ok cs => rfl

theorem map_of_mapM_eq_ok {f : α → Except ε β} {g : β → γ} {h : α → γ}
    (hf : ∀ a b, f a = .ok b → g b = h a) {xs : List α} {ys : List β}
    (hm : xs.mapM f = .ok ys) : ys.map g = xs.map h := by
  induction xs generalizing ys with
  | nil =>
    obtain rfl : [] = ys := by simpa [pure, Except.pure] using hm
    rfl
  | cons x xs ih =>
    rw [List.mapM_cons, bind_eq_ok] at hm
    obtain ⟨y, hy, hm⟩ := hm
    obtain ⟨ys', hys, hm⟩ := bind_eq_ok.mp hm
    obtain rfl : y :: ys' = ys := by simpa [pure, Except.pure] using hm
    rw [List.map_cons, List.map_cons, hf x y hy, ih hys]

theorem mapM_isOk {f : α → Except ε β} {xs : List α} (h : ∀ x ∈ xs, ∃ y, f x = .ok y) :
    ∃ ys, xs.mapM f = .ok ys := by
  induction xs with
  | nil => exact ⟨[], rfl⟩
  | cons x xs ih =>
    obtain ⟨y, hy⟩ := h x (by simp)
    obtain ⟨ys, hys⟩ := ih fun z hz => h z (List.mem_cons_of_mem _ hz)
    refine ⟨y :: ys, ?_⟩
    rw [List.mapM_cons]
    exact bind_eq_ok.mpr ⟨y, hy, bind_eq_ok.mpr ⟨ys, hys, rfl⟩⟩

theorem forall₂_of_mapM_eq_ok {f : α → Except ε β} {xs : List α} {ys : List β}
    (h : xs.mapM f = .ok ys) : List.Forall₂ (fun x y => f x = .ok y) xs ys := by
  induction xs generalizing ys with
  | nil =>
    obtain rfl : [] = ys := by simpa [pure, Except.pure] using h
    exact .nil
  | cons x xs ih =>
    rw [List.mapM_cons, bind_eq_ok] at h
    obtain ⟨y, hy, h⟩ := h
    obtain ⟨ys', hys, h⟩ := bind_eq_ok.mp h
    obtain rfl : y :: ys' = ys := by simpa [pure, Except.pure] using h
    exact .cons hy (ih hys)

theorem mapM_eq_ok_of_forall₂ {f : α → Except ε β} {xs : List α} {ys : List β}
    (h : List.Forall₂ (fun x y => f x = .ok y) xs ys) : xs.mapM f = .ok ys := by
  induction h with
  | nil => rfl
  | cons hx _ ih =>
    rw [List.mapM_cons]
    exact bind_eq_ok.mpr ⟨_, hx, bind_eq_ok.mpr ⟨_, ih, rfl⟩⟩

theorem mapM_eq_ok_of_perm {f : α → Except ε β} {xs xs' : List α} {ys : List β}
    (h : xs.mapM f = .ok ys) (hperm : xs'.Perm xs) :
    ∃ ys', xs'.mapM f = .ok ys' ∧ ys'.Perm ys := by
  obtain ⟨ys', hall, hys⟩ := List.perm_comp_forall₂ hperm (forall₂_of_mapM_eq_ok h)
  exact ⟨ys', mapM_eq_ok_of_forall₂ hall, hys⟩

theorem exists_left_of_forall₂ {R : α → β → Prop} {xs : List α} {ys : List β}
    (h : List.Forall₂ R xs ys) {y : β} (hy : y ∈ ys) : ∃ x ∈ xs, R x y := by
  induction h with
  | nil => cases hy
  | cons hx _ ih =>
    rcases List.mem_cons.mp hy with rfl | hy
    · exact ⟨_, List.mem_cons_self, hx⟩
    · obtain ⟨x, hmem, hxy⟩ := ih hy
      exact ⟨x, List.mem_cons_of_mem _ hmem, hxy⟩

theorem exists_right_of_forall₂ {R : α → β → Prop} {xs : List α} {ys : List β}
    (h : List.Forall₂ R xs ys) {x : α} (hx : x ∈ xs) : ∃ y ∈ ys, R x y :=
  exists_left_of_forall₂ h.flip hx

theorem exists_mem_of_mapM_eq_ok {f : α → Except ε β} {xs : List α} {ys : List β}
    (h : xs.mapM f = .ok ys) {y : β} (hy : y ∈ ys) : ∃ x ∈ xs, f x = .ok y :=
  exists_left_of_forall₂ (forall₂_of_mapM_eq_ok h) hy

theorem exists_image_of_mapM_eq_ok {f : α → Except ε β} {xs : List α} {ys : List β}
    (h : xs.mapM f = .ok ys) {x : α} (hx : x ∈ xs) : ∃ y ∈ ys, f x = .ok y :=
  exists_right_of_forall₂ (forall₂_of_mapM_eq_ok h) hx

theorem mapM_bind_eq_ok {f : α → Except ε β} {g : β → Except ε γ} {xs : List α}
    {zs : List γ} (h : xs.mapM (fun x => f x >>= g) = .ok zs) :
    ∃ ys, xs.mapM f = .ok ys ∧ ys.mapM g = .ok zs := by
  induction xs generalizing zs with
  | nil =>
    obtain rfl : [] = zs := by simpa [pure, Except.pure] using h
    exact ⟨[], rfl, rfl⟩
  | cons x xs ih =>
    rw [List.mapM_cons, bind_eq_ok] at h
    obtain ⟨z, hz, h⟩ := h
    obtain ⟨zs', hzs, h⟩ := bind_eq_ok.mp h
    obtain rfl : z :: zs' = zs := by simpa [pure, Except.pure] using h
    obtain ⟨y, hy, hgy⟩ := bind_eq_ok.mp hz
    obtain ⟨ys, hys, hgys⟩ := ih hzs
    refine ⟨y :: ys, ?_, ?_⟩
    · rw [List.mapM_cons, bind_eq_ok]
      exact ⟨y, hy, bind_eq_ok.mpr ⟨ys, hys, rfl⟩⟩
    · rw [List.mapM_cons, bind_eq_ok]
      exact ⟨z, hgy, bind_eq_ok.mpr ⟨zs', hgys, rfl⟩⟩

theorem mapM_append_eq_ok {f : α → Except ε β} {xs xs' : List α} {ys ys' : List β}
    (h : xs.mapM f = .ok ys) (h' : xs'.mapM f = .ok ys') :
    (xs ++ xs').mapM f = .ok (ys ++ ys') := by
  rw [List.mapM_append, h, h']
  rfl

theorem mapM_append_eq_some {f : α → Option β} {xs xs' : List α} {ys ys' : List β}
    (h : xs.mapM f = some ys) (h' : xs'.mapM f = some ys') :
    (xs ++ xs').mapM f = some (ys ++ ys') := by
  rw [List.mapM_append, h, h']
  rfl

theorem mapM_eq_some_map {f : α → Option β} {g : α → β} {xs : List α}
    (h : ∀ x ∈ xs, f x = some (g x)) : xs.mapM f = some (xs.map g) := by
  induction xs with
  | nil => rfl
  | cons x xs ih =>
    rw [List.mapM_cons, h x (by simp), ih fun y hy => h y (by simp [hy])]
    rfl

theorem exists_image_of_mapM_eq_some {f : α → Option β} {xs : List α} {ys : List β}
    (h : xs.mapM f = some ys) {x : α} (hx : x ∈ xs) : ∃ y ∈ ys, f x = some y := by
  induction xs generalizing ys with
  | nil => cases hx
  | cons z zs ih =>
    rw [List.mapM_cons] at h
    obtain ⟨w, hw, h⟩ := Option.bind_eq_some_iff.mp h
    obtain ⟨ws, hws, h⟩ := Option.bind_eq_some_iff.mp h
    obtain rfl := Option.some.inj h
    rcases List.mem_cons.mp hx with rfl | hx
    · exact ⟨w, List.mem_cons_self, hw⟩
    · obtain ⟨y, hy, hxy⟩ := ih hws hx
      exact ⟨y, List.mem_cons_of_mem _ hy, hxy⟩

theorem mapM_congr_some {f g : α → Option β} {xs : List α} (h : ∀ x ∈ xs, f x = g x) :
    xs.mapM f = xs.mapM g := by
  induction xs with
  | nil => rfl
  | cons x xs ih =>
    rw [List.mapM_cons, List.mapM_cons, h x (by simp), ih fun y hy => h y (by simp [hy])]

theorem mapM_eq_none_of_mem {f : α → Option β} {x : α} {xs : List α} (hx : x ∈ xs)
    (h : f x = none) : xs.mapM f = none := by
  obtain ⟨before, after, rfl⟩ := List.append_of_mem hx
  rw [List.mapM_append, List.mapM_cons, h]
  cases before.mapM f <;> rfl

theorem mapM_flatMap_eq_some {f : α → Option β} {g : γ → List α} {g' : γ → List β}
    (h : ∀ c, (g c).mapM f = some (g' c)) (cs : List γ) :
    (cs.flatMap g).mapM f = some (cs.flatMap g') := by
  induction cs with
  | nil => rfl
  | cons c cs ih => exact mapM_append_eq_some (h c) ih

theorem result_bind_eq_ok {x : Logged α} {f : α → Logged β} {b : β} :
    (x >>= f).result = .ok b ↔ ∃ a, x.result = .ok a ∧ (f a).result = .ok b := by
  obtain ⟨ns, r⟩ := x
  cases r with
  | error e => simp
  | ok a => simp

theorem result_bind_of_ok {x : Logged α} {a : α} (h : x.result = .ok a) (f : α → Logged β) :
    (x >>= f).result = (f a).result := by
  obtain ⟨ns, r⟩ := x
  obtain rfl : r = .ok a := h
  rfl

theorem result_bind_of_error {x : Logged α} {e : Fault} (h : x.result = .error e)
    (f : α → Logged β) : (x >>= f).result = .error e := by
  obtain ⟨ns, r⟩ := x
  obtain rfl : r = .error e := h
  rfl

theorem result_mapM_eq_ok {f : α → Logged β} {g : α → β} {xs : List α}
    (h : ∀ x ∈ xs, (f x).result = .ok (g x)) : (xs.mapM f).result = .ok (xs.map g) := by
  suffices hloop : ∀ acc, (List.mapM.loop f xs acc).result = .ok (acc.reverse ++ xs.map g) from
    hloop []
  induction xs with
  | nil => simp [List.mapM.loop]
  | cons x xs ih =>
    intro acc
    have hrest := ih (fun y hy => h y (List.mem_cons_of_mem _ hy)) (g x :: acc)
    rw [List.mapM.loop, result_bind_of_ok (h x (by simp)), hrest]
    simp

/-- Where steps give values or one and the same fault, a single fault is that of the list. -/
theorem result_mapM_eq_error {f : α → Logged β} {e : Fault} {xs : List α}
    (h : ∀ x ∈ xs, (∃ y, (f x).result = .ok y) ∨ (f x).result = .error e)
    (hfails : ∃ x ∈ xs, (f x).result = .error e) : (xs.mapM f).result = .error e := by
  suffices hloop : ∀ acc, (List.mapM.loop f xs acc).result = .error e from hloop []
  induction xs with
  | nil => simp at hfails
  | cons x xs ih =>
    intro acc
    rcases h x (by simp) with ⟨y, hy⟩ | hx
    · have hfails' : ∃ x ∈ xs, (f x).result = .error e := by
        obtain ⟨z, hz, he⟩ := hfails
        rcases List.mem_cons.mp hz with rfl | hz
        · rw [hy] at he
          cases he
        · exact ⟨z, hz, he⟩
      rw [List.mapM.loop, result_bind_of_ok hy]
      exact ih (fun z hz => h z (List.mem_cons_of_mem _ hz)) hfails' _
    · rw [List.mapM.loop, result_bind_of_error hx]

theorem result_forM_note (ns : List Notice) : (ns.forM Logged.note).result = .ok ⟨⟩ := by
  induction ns with
  | nil => rfl
  | cons n ns ih => exact result_bind_eq_ok.mpr ⟨⟨⟩, rfl, ih⟩

end SmithyGen.Outcome
