import ProtectedBoot.Word

/-!
# Byte strings

A **byte string** has a size and a byte at every position below it. Nothing is stored: a window onto
memory is a byte string as much as a list of bytes is, however large it claims to be. Reads say
whether they stay inside the string, and a read that would leave it yields nothing.
-/

namespace ProtectedBoot

/-- A number of bytes in a row. -/
structure Bytes where
  size : Nat
  byte : Fin size → Byte

namespace Bytes

/-- The string without bytes. -/
def empty : Bytes := ⟨0, fun i => i.elim0⟩

/-- The bytes of an array. -/
def ofArray (a : Array Byte) : Bytes := ⟨a.size, fun i => a[i]⟩

/-- The bytes of a list. -/
def ofList (l : List Byte) : Bytes := ofArray l.toArray

/-- The bytes as a list. -/
def toList (b : Bytes) : List Byte := List.ofFn b.byte

/-- The first `n` bytes, or all of them if there are not that many. -/
def take (b : Bytes) (n : Nat) : Bytes :=
  ⟨min b.size n, fun i => b.byte ⟨i.val, by omega⟩⟩

/-- The `n` bytes from an offset on. -/
def run? (b : Bytes) (offset n : Nat) : Option (Fin n → Byte) :=
  if h : offset + n ≤ b.size then some fun i => b.byte ⟨offset + i.val, by omega⟩ else none

/-- The word at an offset, least significant byte first. -/
def word? (b : Bytes) (offset : Nat) : Option Word :=
  (b.run? offset 4).map fun f => ofBytes32 (f 0) (f 1) (f 2) (f 3)

/-- The double word at an offset, least significant byte first. -/
def doubleWord? (b : Bytes) (offset : Nat) : Option DoubleWord :=
  (b.run? offset 8).map fun f =>
    ofBytes32 (f 4) (f 5) (f 6) (f 7) ++ ofBytes32 (f 0) (f 1) (f 2) (f 3)

/-! ## Reads stay inside -/

/-- Byte strings of one size with the same bytes are the same. -/
theorem ext {a b : Bytes} (hs : a.size = b.size)
    (hb : ∀ (i : Nat) (ha : i < a.size), a.byte ⟨i, ha⟩ = b.byte ⟨i, hs ▸ ha⟩) : a = b := by
  rcases a with ⟨n, f⟩
  rcases b with ⟨m, g⟩
  cases hs
  congr 1
  funext i
  exact hb i.val i.isLt

theorem run?_isSome_iff {b : Bytes} {offset n : Nat} :
    (b.run? offset n).isSome ↔ offset + n ≤ b.size := by
  unfold run?
  split
  · rename_i h
    exact ⟨fun _ => h, fun _ => rfl⟩
  · rename_i h
    exact ⟨fun k => absurd k Bool.false_ne_true, fun k => absurd k h⟩

/-- A word can be read exactly where all four of its bytes lie inside. -/
theorem word?_isSome_iff {b : Bytes} {offset : Nat} :
    (b.word? offset).isSome ↔ offset + 4 ≤ b.size := by
  rw [word?, Option.isSome_map]
  exact run?_isSome_iff

/-- A double word can be read exactly where all eight of its bytes lie inside. -/
theorem doubleWord?_isSome_iff {b : Bytes} {offset : Nat} :
    (b.doubleWord? offset).isSome ↔ offset + 8 ≤ b.size := by
  rw [doubleWord?, Option.isSome_map]
  exact run?_isSome_iff

end Bytes

end ProtectedBoot
