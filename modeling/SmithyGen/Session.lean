import SmithyGen.FileTree
import SmithyGen.Logged

namespace SmithyGen

/-- From a tree to the tree left behind, the notices given and how it ended. -/
def Session (α : Type) := FileTree → FileTree × Logged α

namespace Session

variable {α β : Type}

def ok (a : α) : Session α := fun t => (t, .ok a)

def bind (x : Session α) (f : α → Session β) : Session β := fun t =>
  match x t with
  | (t', ⟨notices, .ok a⟩) =>
    let (t'', l) := f a t'
    (t'', ⟨notices ++ l.notices, l.result⟩)
  | (t', ⟨notices, .error e⟩) => (t', ⟨notices, .error e⟩)

instance : Monad Session where
  pure := ok
  bind := bind

def inspect (f : FileTree → Logged α) : Session α := fun t => (t, f t)

def ofLogged (x : Logged α) : Session α := fun t => (t, x)

def note (n : Notice) : Session Unit := ofLogged (Logged.note n)

def fail (f : Fault) : Session α := ofLogged (Logged.fail f)

/-- Changes the tree; a refusal becomes a fault. -/
def change {ε : Type} (wrap : ε → Fault) (f : FileTree → FileTree × Except ε α) : Session α :=
  fun t =>
    let (t', r) := f t
    (t', ⟨[], r.mapError wrap⟩)

instance : MonadLift Logged Session := ⟨ofLogged⟩

instance : MonadLift (Except Fault) Session := ⟨fun x => ofLogged (Logged.ofExcept x)⟩

/-- The tree left behind and how it ended, without the notices. -/
def outcome (x : Session α) (t : FileTree) : FileTree × Except Fault α := ((x t).1, (x t).2.result)

@[simp] theorem outcome_pure (a : α) (t : FileTree) :
    (pure a : Session α).outcome t = (t, .ok a) := rfl

@[simp] theorem outcome_bind (x : Session α) (f : α → Session β) (t : FileTree) :
    (x >>= f).outcome t = match x.outcome t with
      | (t', .ok a) => (f a).outcome t'
      | (t', .error e) => (t', .error e) := by
  change ((bind x f t).1, (bind x f t).2.result) = _
  unfold outcome bind
  split
  next t' ns a h => simp [h]
  next t' ns e h => simp [h]

theorem outcome_bind_cases {x : Session α} {f : α → Session β} {t t' : FileTree}
    {r : Except Fault β} (h : (x >>= f).outcome t = (t', r)) :
    (∃ e, x.outcome t = (t', .error e) ∧ r = .error e)
      ∨ ∃ t₁ a, x.outcome t = (t₁, .ok a) ∧ (f a).outcome t₁ = (t', r) := by
  rw [outcome_bind] at h
  split at h
  next t₁ a hx => exact Or.inr ⟨t₁, a, hx, h⟩
  next t₁ e hx =>
    obtain ⟨rfl, rfl⟩ := Prod.mk.inj h
    exact Or.inl ⟨e, hx, rfl⟩

@[simp] theorem outcome_inspect (f : FileTree → Logged α) (t : FileTree) :
    (inspect f).outcome t = (t, (f t).result) := rfl

@[simp] theorem outcome_note (n : Notice) (t : FileTree) : (note n).outcome t = (t, .ok ()) := rfl

@[simp] theorem outcome_fail (f : Fault) (t : FileTree) :
    (fail f : Session α).outcome t = (t, .error f) := rfl

@[simp] theorem outcome_change {ε : Type} (wrap : ε → Fault)
    (f : FileTree → FileTree × Except ε α) (t : FileTree) :
    (change wrap f).outcome t = ((f t).1, (f t).2.mapError wrap) := rfl

theorem outcome_change_cases {ε : Type} {wrap : ε → Fault}
    {f : FileTree → FileTree × Except ε α} {t t' : FileTree} {r : Except Fault α}
    (h : (change wrap f).outcome t = (t', r)) :
    (∃ e, f t = (t', .error e) ∧ r = .error (wrap e)) ∨ ∃ a, f t = (t', .ok a) ∧ r = .ok a := by
  rw [outcome_change] at h
  obtain ⟨rfl, rfl⟩ := Prod.mk.inj h
  cases hr : (f t).2 with
  | error e => exact Or.inl ⟨e, Prod.ext rfl hr, rfl⟩
  | ok a => exact Or.inr ⟨a, Prod.ext rfl hr, rfl⟩

@[simp] theorem outcome_forM_note (ns : List Notice) (t : FileTree) :
    (forM ns note : Session Unit).outcome t = (t, .ok ()) := by
  induction ns with
  | nil => rfl
  | cons n ns ih => simp [ih]

end Session

end SmithyGen
