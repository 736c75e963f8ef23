import ProtectedBoot.Attempt

/-!
# Triples for attempts

An attempt leaves a state behind whether or not it goes well, so what is said of one has a
postcondition for either end: `Triple P x R E` says that from a state with `P` the attempt `x`
either yields an `a` in a state with `R a`, or stops for a reason `e` in a state with `E e`.

The rule for a step and the rest (`Triple.bind`) keeps the condition on stops as it is: a stopped
step stops the whole attempt.
-/

namespace ProtectedBoot.Attempt

variable {σ ε α β : Type}

/-- From a state with `P` the attempt ends well with `R`, or stops with `E`. -/
def Triple (P : σ → Prop) (x : Attempt σ ε α) (R : α → σ → Prop) (E : Stop ε → σ → Prop) : Prop :=
  ∀ s, P s → match x s with
    | (.ok a, t) => R a t
    | (.error e, t) => E e t

namespace Triple

variable {P : σ → Prop} {R : α → σ → Prop} {S : β → σ → Prop} {E : Stop ε → σ → Prop}
  {x : Attempt σ ε α}

/-! ## Reading a triple -/

theorem of_ok (h : Triple P x R E) {s t : σ} {a : α} (hs : P s) (hx : x s = (.ok a, t)) :
    R a t := by
  have := h s hs
  rwa [hx] at this

/-- What holds at either end holds of the state that is left. -/
theorem left {I : σ → Prop} (h : Triple P x (fun _ => I) (fun _ => I)) {s : σ} (hs : P s) :
    I (x s).2 := by
  have := h s hs
  rcases hx : x s with ⟨_ | _, t⟩ <;> rwa [hx] at this

/-- To say what holds of the state that is left is to say it at either end. -/
theorem of_left {I : σ → Prop} (h : ∀ s, P s → I (x s).2) :
    Triple P x (fun _ => I) (fun _ => I) := by
  intro s hs
  have := h s hs
  rcases hx : x s with ⟨_ | _, t⟩ <;> rwa [hx] at this

/-- An attempt ends in one of the two ways. -/
theorem ends (h : Triple P x R E) {s : σ} (hs : P s) :
    (∃ a t, x s = (.ok a, t) ∧ R a t) ∨ ∃ e t, x s = (.error e, t) ∧ E e t := by
  have := h s hs
  rcases hx : x s with ⟨e | a, t⟩ <;> rw [hx] at this
  · exact .inr ⟨e, t, rfl, this⟩
  · exact .inl ⟨a, t, rfl, this⟩

/-! ## Rules -/

/-- A fact about no state can be assumed. -/
theorem assuming {φ : Prop} (h : φ → Triple P x R E) : Triple (fun s => φ ∧ P s) x R E :=
  fun s hs => h hs.1 s hs.2

/-- So can a value that some state has. -/
theorem forSome {γ : Type} {Q : γ → σ → Prop} (h : ∀ c, Triple (Q c) x R E) :
    Triple (fun s => ∃ c, Q c s) x R E :=
  fun s ⟨c, hs⟩ => h c s hs

/-- A weaker postcondition. -/
theorem weaken {R' : α → σ → Prop} (h : Triple P x R E) (hR : ∀ a s, R a s → R' a s) :
    Triple P x R' E := by
  intro s hs
  have := h s hs
  rcases hx : x s with ⟨e | a, t⟩ <;> rw [hx] at this
  · exact this
  · exact hR a t this

/-- A weaker condition on stops. -/
theorem stopping {E' : Stop ε → σ → Prop} (h : Triple P x R E) (hE : ∀ e s, E e s → E' e s) :
    Triple P x R E' := by
  intro s hs
  have := h s hs
  rcases hx : x s with ⟨e | a, t⟩ <;> rw [hx] at this
  · exact hE e t this
  · exact this

theorem pure {a : α} (h : ∀ s, P s → R a s) : Triple P (Pure.pure a : Attempt σ ε α) R E :=
  fun s hs => h s hs

/-- **A step, then the rest.** -/
theorem bind {f : α → Attempt σ ε β} (hx : Triple P x R E) (hf : ∀ a, Triple (R a) (f a) S E) :
    Triple P (x >>= f) S E := by
  intro s hs
  have first := hx s hs
  rw [bind_apply]
  rcases run : x s with ⟨e | a, t⟩
  · rw [run] at first
    exact first
  · rw [run] at first
    exact hf a t first

theorem state {R : σ → σ → Prop} (h : ∀ s, P s → R s s) :
    Triple P (Attempt.state : Attempt σ ε σ) R E :=
  fun s hs => h s hs

theorem update {f : σ → σ} {R : Unit → σ → Prop} (h : ∀ s, P s → R () (f s)) :
    Triple P (Attempt.update f : Attempt σ ε Unit) R E :=
  fun s hs => h s hs

/-- A refusal is an answer of its own, and what stops the attempt now is a fault. -/
theorem settle {S : Except ε α → σ → Prop} {E' : Stop ε → σ → Prop} (h : Triple P x R E)
    (ok : ∀ a s, R a s → S (.ok a) s) (refused : ∀ e s, E (.refused e) s → S (.error e) s)
    (fault : ∀ f s, E (.fault f) s → E' (.fault f) s) : Triple P (Attempt.settle x) S E' := by
  intro s hs
  rw [Attempt.settle]
  rcases h.ends hs with ⟨a, t, run, post⟩ | ⟨e, t, run, post⟩
  · rw [run]
    exact ok a t post
  · rw [run]
    cases e with
    | refused e => exact refused e t post
    | fault f => exact fault f t post

theorem refuse {reason : ε} (h : ∀ s, P s → E (.refused reason) s) :
    Triple P (Attempt.refuse reason : Attempt σ ε α) R E :=
  fun s hs => h s hs

theorem ofFaulting {y : Except Fault α} (ok : ∀ a s, y = .ok a → P s → R a s)
    (fault : ∀ f s, y = .error f → P s → E (.fault f) s) : Triple P (Attempt.ofFaulting y) R E := by
  intro s hs
  cases y with
  | ok a => exact ok a s rfl hs
  | error f => exact fault f s rfl hs

theorem ofRefusable {y : Except ε α} (ok : ∀ a s, y = .ok a → P s → R a s)
    (refused : ∀ e s, y = .error e → P s → E (.refused e) s) :
    Triple P (Attempt.ofRefusable y) R E := by
  intro s hs
  cases y with
  | ok a => exact ok a s rfl hs
  | error e => exact refused e s rfl hs

end Triple

end ProtectedBoot.Attempt
