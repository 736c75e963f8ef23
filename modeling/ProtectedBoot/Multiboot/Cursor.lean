import ProtectedBoot.Attempt
import ProtectedBoot.Multiboot.MemoryMap

/-!
# Reading a memory map step by step

`MemoryMap.regions` is what a map tells as a whole, with offsets that are numbers. A machine reads one
region at a time and keeps its place in a word, so it has to take care that no sum of offsets leaves
the word: sums that lie within a record are checked, the sum that leads behind the record saturates,
and a read whose end is not a word finds nothing. A step yields a region, or it ends the reading, or it
faults; in any case it leaves a place behind, from which the next step goes on.

The cursor also keeps which stretches of the map were read.
-/

namespace ProtectedBoot.Multiboot

variable {w : Nat} {α : Type}

/-- How far the reading of a map has come, on a machine whose offsets have `w` bits. -/
structure Cursor (w : Nat) where
  offset : BitVec w
  /-- The stretches that were read, each as its offset and the number of its bytes. -/
  touched : List (Nat × Nat)

namespace Cursor

/-- The cursor of a reading that has not begun. -/
def start (w : Nat) : Cursor w := ⟨0, []⟩

/-- Go on from another offset. -/
def moveTo (offset : BitVec w) : Attempt (Cursor w) Unit Unit :=
  Attempt.update fun c => { c with offset }

/-- Read the value that `n` bytes at an offset have. The reading ends if they do not all lie in the
map, or if the offset behind them is not a word. -/
def fetch (value : Nat → Option α) (offset : BitVec w) (n : Nat) : Attempt (Cursor w) Unit α :=
  fun c =>
    match (add? offset (BitVec.ofNat w n)).bind fun _ => value offset.toNat with
    | some v => (.ok v, { c with touched := c.touched ++ [(offset.toNat, n)] })
    | none => (.error (.refused ()), c)

/-- Read a value of `n` bytes that lies `distance` bytes behind the start of a record. -/
def field (value : Nat → Option α) (place distance : BitVec w) (n : Nat) :
    Attempt (Cursor w) Unit α := do
  fetch value (← Attempt.ofFaulting (checkedAdd place distance)) n

end Cursor

namespace MemoryMap

/-- How a step answers with a region, or with the news that there is none. -/
def answer : Option Region → Except (Stop Unit) Region
  | some r => .ok r
  | none => .error (.refused ())

/-- Read one region. -/
def step (m : MemoryMap) : Attempt (Cursor w) Unit Region := do
  let c ← Attempt.state
  let size ← Cursor.fetch m.bytes.word? c.offset 4
  if size.toNat < recordPayload then
    Cursor.moveTo (BitVec.ofNat w m.bytes.size)
    Attempt.refuse ()
  else
    let base ← Cursor.field m.bytes.doubleWord? c.offset 4 8
    let length ← Cursor.field m.bytes.doubleWord? c.offset 12 8
    let code ← Cursor.field m.bytes.word? c.offset 20 4
    Cursor.moveTo (saturatingAdd (saturatingAdd c.offset 4) (size.setWidth w))
    return ⟨base, length, .ofCode code⟩

/-- What the next `k` steps answer, whatever the answers are, and the cursor behind them. -/
def steps (m : MemoryMap) : Nat → Cursor w → List (Except (Stop Unit) Region) × Cursor w
  | 0, c => ([], c)
  | k + 1, c =>
    let (answer, next) := m.step c
    let (rest, last) := m.steps k next
    (answer :: rest, last)

end MemoryMap

end ProtectedBoot.Multiboot
