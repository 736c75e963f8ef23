import ProtectedBoot.Fault

/-!
# Attempts: operations that may stop and keep what they did

The page-table builder and the boot sequence change a state step by step, and when a step fails,
what the earlier steps did stays done. An **attempt** is therefore a function from a state to a
result *and* a state, whichever way the result went.

`bind_apply` is the only rule that later proofs need: a failed step ends the attempt with the state
it left, and a successful one hands its value and its state on.
-/

namespace ProtectedBoot

/-- An operation on a state `σ` that yields `α`, is refused with an `ε`, or runs into a fault. -/
abbrev Attempt (σ ε α : Type) : Type := ExceptT (Stop ε) (StateM σ) α

namespace Attempt

variable {σ ε α β : Type}

/-- End the attempt with a reason for the caller; the state stays as it is. -/
def refuse (reason : ε) : Attempt σ ε α := fun s => (.error (.refused reason), s)

/-- Lift a computation that can only fault. -/
def ofFaulting : Except Fault α → Attempt σ ε α
  | .ok a => fun s => (.ok a, s)
  | .error f => fun s => (.error (.fault f), s)

/-- Lift a computation that can only be refused. -/
def ofRefusable : Except ε α → Attempt σ ε α
  | .ok a => fun s => (.ok a, s)
  | .error e => fun s => (.error (.refused e), s)

/-- Read the state. -/
def state : Attempt σ ε σ := fun s => (.ok s, s)

/-- Change the state. -/
def update (f : σ → σ) : Attempt σ ε Unit := fun s => (.ok (), f s)

/-- Turn a refusal into an answer. A fault stays one. -/
def settle (x : Attempt σ ε α) : Attempt σ ε (Except ε α) := fun s =>
  match x s with
  | (.ok a, t) => (.ok (.ok a), t)
  | (.error (.refused e), t) => (.ok (.error e), t)
  | (.error (.fault f), t) => (.error (.fault f), t)

/-- **A step, then the rest**: the rest runs on the state the step left, and only if the step
succeeded. -/
theorem bind_apply (x : Attempt σ ε α) (f : α → Attempt σ ε β) (s : σ) :
    (x >>= f) s = match x s with
      | (.ok a, t) => f a t
      | (.error e, t) => (.error e, t) := by
  simp only [bind, ExceptT.bind, ExceptT.mk, StateT.bind, ExceptT.bindCont]
  rcases x s with ⟨_ | _, _⟩ <;> rfl

/-- A computation that does not fault is no step at all. -/
theorem ofFaulting_ok_bind (a : α) (f : α → Attempt σ ε β) :
    (ofFaulting (.ok a) >>= f) = f a := by
  funext s
  rw [bind_apply]
  rfl

/-! ## Attempts that went well -/

/-- If an attempt went well, so did its first step and the rest. -/
theorem bind_eq_ok {x : Attempt σ ε α} {f : α → Attempt σ ε β} {b : β} {s u : σ}
    (h : (x >>= f) s = (.ok b, u)) : ∃ a t, x s = (.ok a, t) ∧ f a t = (.ok b, u) := by
  rw [bind_apply] at h
  rcases hx : x s with ⟨e | a, t⟩ <;> rw [hx] at h
  · cases h
  · exact ⟨a, t, rfl, h⟩

theorem ofFaulting_eq_ok {x : Except Fault α} {a : α} {s t : σ}
    (h : (ofFaulting x : Attempt σ ε α) s = (.ok a, t)) : x = .ok a ∧ s = t := by
  cases x <;> cases h
  exact ⟨rfl, rfl⟩

theorem ofRefusable_eq_ok {x : Except ε α} {a : α} {s t : σ}
    (h : (ofRefusable x : Attempt σ ε α) s = (.ok a, t)) : x = .ok a ∧ s = t := by
  cases x <;> cases h
  exact ⟨rfl, rfl⟩

end Attempt

end ProtectedBoot
