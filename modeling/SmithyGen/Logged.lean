import SmithyGen.Notice

namespace SmithyGen

/-- The notices given, in order, and how it ended. -/
structure Logged (α : Type) where
  notices : List Notice
  result : Except Fault α

namespace Logged

variable {α β : Type}

def ok (a : α) : Logged α := ⟨[], .ok a⟩

def fail (f : Fault) : Logged α := ⟨[], .error f⟩

def note (n : Notice) : Logged Unit := ⟨[n], .ok ()⟩

def ofExcept (x : Except Fault α) : Logged α := ⟨[], x⟩

/-- A fault ends the computation and keeps the notices given so far. -/
def bind (x : Logged α) (f : α → Logged β) : Logged β :=
  match x.result with
  | .ok a => ⟨x.notices ++ (f a).notices, (f a).result⟩
  | .error e => ⟨x.notices, .error e⟩

instance : Monad Logged where
  pure := ok
  bind := bind

instance : MonadLift (Except Fault) Logged := ⟨ofExcept⟩

@[simp] theorem pure_eq (a : α) : (pure a : Logged α) = ⟨[], .ok a⟩ := rfl

@[simp] theorem bind_ok (ns : List Notice) (a : α) (f : α → Logged β) :
    (Logged.mk ns (.ok a) >>= f) = ⟨ns ++ (f a).notices, (f a).result⟩ := rfl

@[simp] theorem bind_error (ns : List Notice) (e : Fault) (f : α → Logged β) :
    (Logged.mk ns (.error e) >>= f) = ⟨ns, .error e⟩ := rfl

end Logged

end SmithyGen
