import ProtectedBoot.Bytes

/-!
# Memory

The contents of memory are a function from addresses to bytes. A write changes the byte at its own
address and no other, so writing back what was there undoes it (`write_write`, `write_self`).
-/

namespace ProtectedBoot

/-- What memory holds at each address. -/
structure Memory where
  byte : Nat → Byte

namespace Memory

/-- Memory that holds zero everywhere. -/
def zeroed : Memory := ⟨fun _ => 0⟩

/-- The memory after a byte was stored. -/
def write (m : Memory) (a : Nat) (v : Byte) : Memory := ⟨fun x => if x = a then v else m.byte x⟩

/-- The word at an address, least significant byte first. -/
def word (m : Memory) (a : Nat) : Word :=
  ofBytes32 (m.byte a) (m.byte (a + 1)) (m.byte (a + 2)) (m.byte (a + 3))

/-- A stretch of memory as a byte string. -/
def window (m : Memory) (start size : Nat) : Bytes := ⟨size, fun i => m.byte (start + i)⟩

/-- The bytes from an address up to the first zero, or `limit` bytes if none of them is zero. -/
def untilZero (m : Memory) (a : Nat) : (limit : Nat) → List Byte
  | 0 => []
  | limit + 1 => if m.byte a = 0 then [] else m.byte a :: m.untilZero (a + 1) limit

theorem write_same (m : Memory) (a : Nat) (v : Byte) : (m.write a v).byte a = v := by
  simp [write]

/-- Storing what is there changes nothing. -/
theorem write_self (m : Memory) (a : Nat) : m.write a (m.byte a) = m := by
  unfold write
  congr 1
  funext x
  split
  · rename_i h
    rw [h]
  · rfl

/-- The later of two writes to one address wins. -/
theorem write_write (m : Memory) (a : Nat) (v w : Byte) :
    (m.write a v).write a w = m.write a w := by
  unfold write
  congr 1
  funext x
  split <;> simp_all

end Memory

end ProtectedBoot
