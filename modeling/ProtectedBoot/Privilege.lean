import ProtectedBoot.Word

/-!
# Privilege levels

The four rings of the processor, numbered from the most privileged. A ring plays three roles: the
level a **descriptor** grants (DPL), the level a **selector** asks for (RPL) and the level of the
code that is **running** (CPL). The rules below are the comparisons that the processor makes between
the three when a segment register is loaded.
-/

namespace ProtectedBoot

/-- A privilege ring. -/
inductive Ring where
  | ring0
  | ring1
  | ring2
  | ring3
deriving DecidableEq

namespace Ring

/-- The number of the ring; a larger number is less privileged. -/
def level : Ring → Nat
  | ring0 => 0
  | ring1 => 1
  | ring2 => 2
  | ring3 => 3

/-- The ring that the low two bits of a number name. -/
def ofBits (n : Nat) : Ring :=
  match n % 4 with
  | 0 => ring0
  | 1 => ring1
  | 2 => ring2
  | _ => ring3

/-- The name of the ring. -/
def name : Ring → String
  | ring0 => "Ring0"
  | ring1 => "Ring1"
  | ring2 => "Ring2"
  | ring3 => "Ring3"

/-- The bits of a selector that hold its ring. -/
def mask : HalfWord := 3

/-- The level that data accesses are checked with: the less privileged of the running code and the
selector. -/
def effective (running selector : Ring) : Nat := max running.level selector.level

/-- Whether `DS`, `ES`, `FS` or `GS` may take the segment. -/
def permitsData (descriptor running selector : Ring) : Bool :=
  effective running selector ≤ descriptor.level

/-- Whether `SS` may take the segment: all three levels are one. -/
def permitsStack (descriptor running selector : Ring) : Bool :=
  descriptor == running && selector == running

/-- Whether control may pass into a non-conforming code segment. -/
def permitsCode (descriptor running : Ring) : Bool := descriptor == running

/-- Whether control may pass into a conforming code segment. -/
def permitsConforming (descriptor running : Ring) : Bool := descriptor.level ≤ running.level

theorem ofBits_level (r : Ring) : ofBits r.level = r := by
  cases r <;> rfl

theorem level_ofBits (n : Nat) : (ofBits n).level = n % 4 := by
  have bound : n % 4 < 4 := Nat.mod_lt n (by decide)
  unfold ofBits
  generalize n % 4 = m at bound ⊢
  match m, bound with
  | 0, _ | 1, _ | 2, _ | 3, _ => rfl

end Ring

end ProtectedBoot
