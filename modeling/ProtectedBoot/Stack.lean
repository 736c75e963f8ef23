import ProtectedBoot.Address
import ProtectedBoot.Platform

/-!
# The boot stack

The boot code runs on a block of memory that is set aside for its stack. The stack grows downwards,
so the stack pointer starts at the end of the block, rounded down to the alignment that calls need.
-/

namespace ProtectedBoot

/-- The initial stack pointer for a block, or nothing if the block leaves the address space. -/
def stackTop (base : PhysAddr) (size : Word) : Option PhysAddr :=
  (base.add? size).map fun e => ⟨alignDown e.bits Platform.stackAlignment⟩

/-- The memory of a stack of `size` bytes. -/
structure StackBlock (size : Nat) where
  bytes : Vector Byte size

namespace StackBlock

/-- The block as it is found at the start. -/
def zeroed (size : Nat) : StackBlock size := ⟨Vector.replicate size 0⟩

/-- The distance from the start of an aligned block to the initial stack pointer. -/
def topOffset (size : Nat) : Option PhysAddr := stackTop .zero (BitVec.ofNat 32 size)

end StackBlock

/-- A block of memory set aside for a stack. -/
structure StackRegion where
  base : PhysAddr
  size : Word
deriving DecidableEq

namespace StackRegion

/-- The initial stack pointer. -/
def top (r : StackRegion) : Option PhysAddr := stackTop r.base r.size

/-- Whether an address lies in the block. -/
def contains (r : StackRegion) (a : PhysAddr) : Bool :=
  r.base.toNat ≤ a.toNat ∧ a.toNat - r.base.toNat < r.size.toNat

/-- The first and the last address of the block, the latter cut off at the end of the address
space. -/
def bounds (r : StackRegion) : PhysAddr × PhysAddr :=
  (r.base, ⟨saturatingAdd r.base.bits (saturatingSub r.size 1)⟩)

end StackRegion

end ProtectedBoot
