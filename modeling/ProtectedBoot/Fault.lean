/-!
# Faults

A **fault** is what stops the boot code when one of its own arithmetic operations leaves the range
of its word, or when an operation is called outside the range it is defined on. A fault is not an
answer: errors that a caller is meant to handle have types of their own (`PagingError`,
`LayoutError`, …), and an operation that can end either way says so with `Stop`.
-/

namespace ProtectedBoot

/-- The ways in which the boot code stops itself. -/
inductive Fault where
  /-- A sum does not fit its word. -/
  | addOverflow
  /-- A difference is negative. -/
  | subOverflow
  /-- A product does not fit its word. -/
  | mulOverflow
  /-- An alignment is not a power of two. -/
  | alignmentNotPowerOfTwo
  /-- An offset lies outside the page it is joined to. -/
  | offsetOutsidePage
  /-- A directory or table index is not below 1024. -/
  | indexOutOfTable
  /-- A page directory base is not a multiple of 4096. -/
  | directoryUnaligned
  /-- A segment limit is wider than 20 bits. -/
  | limitTooWide
  /-- A value does not fit a field of the given number of bits. -/
  | fieldTooNarrow (bits : Nat)
deriving DecidableEq

namespace Fault

/-- The text a fault is reported with. -/
def message : Fault → String
  | addOverflow => "attempt to add with overflow"
  | subOverflow => "attempt to subtract with overflow"
  | mulOverflow => "attempt to multiply with overflow"
  | alignmentNotPowerOfTwo => "assertion failed: align.is_power_of_two()"
  | offsetOutsidePage => "assertion failed: offset < S::SIZE"
  | indexOutOfTable => "assertion failed: v < 1024"
  | directoryUnaligned => "page directory base must be 4K-aligned"
  | limitTooWide => "segment limit is a 20-bit field"
  | fieldTooNarrow bits => s!"value out of bounds [0, {(1 <<< bits) - 1}]"

end Fault

/-- Why an operation ended without its result: it was **refused** for a reason that the caller is
told, or it ran into a fault. -/
inductive Stop (ε : Type) where
  | refused (reason : ε)
  | fault (cause : Fault)
deriving DecidableEq

/-- Two steps of which either may fail succeed together when both do. -/
theorem bind_eq_ok_iff {ε α β : Type} {x : Except ε α} {f : α → Except ε β} {b : β} :
    (x >>= f) = .ok b ↔ ∃ a, x = .ok a ∧ f a = .ok b := by
  cases x with
  | error e => simp [bind, Except.bind]
  | ok a => simp [bind, Except.bind]

/-- A step without an answer, and then another. -/
theorem then_eq_ok_iff {ε β : Type} {x : Except ε Unit} {y : Except ε β} {b : β} :
    (x >>= fun _ => y) = .ok b ↔ x = .ok () ∧ y = .ok b := by
  cases x with
  | error e => simp [bind, Except.bind]
  | ok a => simp [bind, Except.bind]

/-- Two steps do not fault if the first does not, and the second does not where the first succeeded. -/
theorem then_ne_fault {ε β : Type} {x : Except (Stop ε) Unit} {y : Except (Stop ε) β} {f : Fault}
    (first : x ≠ .error (.fault f)) (second : x = .ok () → y ≠ .error (.fault f)) :
    (x >>= fun _ => y) ≠ .error (.fault f) := by
  cases x with
  | error e =>
    intro fault
    cases fault
    exact first rfl
  | ok a => exact second rfl

/-- A refusal is no fault. -/
theorem mapError_refused_ne_fault {ε α : Type} (x : Except ε α) (f : Fault) :
    x.mapError Stop.refused ≠ .error (.fault f) := by
  intro fault
  cases x <;> cases fault

/-- Renaming the reason of a failure does not turn it into a success. -/
theorem mapError_eq_ok_iff {ε ε' α : Type} {f : ε → ε'} {x : Except ε α} {a : α} :
    x.mapError f = .ok a ↔ x = .ok a := by
  constructor
  · intro h
    cases x <;> cases h
    rfl
  · rintro rfl
    rfl

end ProtectedBoot
