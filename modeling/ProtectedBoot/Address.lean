import ProtectedBoot.PageSize
import ProtectedBoot.Text.Numeral
import ProtectedBoot.Text.Outline

/-!
# Addresses

An address is a word together with the space it belongs to. A physical address and a virtual one
with the same bits are different things, and only translation leads from the one to the other.
-/

namespace ProtectedBoot

/-- What an address refers to. -/
inductive Space where
  /-- Memory as the running code sees it, whichever way it is addressed. -/
  | memory
  /-- The bus. -/
  | physical
  /-- The address space of the paging unit. -/
  | virtual
deriving DecidableEq

/-- A 32-bit address in a space. -/
structure Address (s : Space) where
  bits : Word
deriving DecidableEq

/-- An address on the bus. -/
abbrev PhysAddr := Address .physical

/-- An address before translation. -/
abbrev VirtAddr := Address .virtual

namespace Address

variable {s : Space}

/-- The address as a number. -/
def toNat (a : Address s) : Nat := a.bits.toNat

/-- The address with a given number; bits above the 32nd are dropped. -/
def ofNat (n : Nat) : Address s := ⟨BitVec.ofNat 32 n⟩

/-- The first address of the space. -/
def zero : Address s := ⟨0⟩

/-- The 32-bit address that a pointer of a wider machine has in its low half. -/
def ofPointer (p : DoubleWord) : Address s := ⟨p.setWidth 32⟩

/-- The same bits in another space. -/
def recast (t : Space) (a : Address s) : Address t := ⟨a.bits⟩

/-! ## Position within a page -/

/-- The distance from the start of the page that holds the address. -/
def offset (z : PageSize) (a : Address s) : Word := a.bits &&& (z.bytes - 1)

/-- The start of the page that holds the address. -/
def alignDown (z : PageSize) (a : Address s) : Address s := ⟨ProtectedBoot.alignDown a.bits z.bytes⟩

/-- Whether a page starts at the address. -/
def isAligned (z : PageSize) (a : Address s) : Bool := ProtectedBoot.isAligned a.bits z.bytes

/-! ## Arithmetic -/

/-- The address `distance` further up, if the space reaches that far. -/
def add? (a : Address s) (distance : Word) : Option (Address s) :=
  (ProtectedBoot.add? a.bits distance).map Address.mk

/-- The address `distance` further down, if the space reaches that far. -/
def sub? (a : Address s) (distance : Word) : Option (Address s) :=
  (ProtectedBoot.sub? a.bits distance).map Address.mk

/-- The address `distance` further up; a fault past the end of the space. -/
def add (a : Address s) (distance : Word) : Except Fault (Address s) :=
  (checkedAdd a.bits distance).map Address.mk

/-! ## Order -/

instance : Ord (Address s) := ⟨fun a b => compare a.toNat b.toNat⟩

/-- The addresses in ascending order, repetitions kept. -/
def sort (l : List (Address s)) : List (Address s) := l.mergeSort fun a b => a.toNat ≤ b.toNat

/-- The largest address of a list. -/
def max? (l : List (Address s)) : Option (Address s) := (sort l).getLast?

/-! ## Text -/

/-- The address in two groups of digits. -/
def text (a : Address s) : String := Text.hexGrouped a.bits

/-- The address with its space. -/
def outline (a : Address s) : String :=
  let name := match s with
    | .memory => "MemoryAddress"
    | .physical => "PA"
    | .virtual => "VA"
  Text.applied name [a.text]

/-! ## Laws -/

theorem ext_toNat {a b : Address s} (h : a.toNat = b.toNat) : a = b := by
  rcases a with ⟨a⟩; rcases b with ⟨b⟩
  exact congrArg Address.mk (BitVec.eq_of_toNat_eq h)

theorem toNat_lt (a : Address s) : a.toNat < 0x100000000 := a.bits.isLt

theorem toNat_ofNat {n : Nat} (h : n < 0x100000000) : (ofNat n : Address s).toNat = n := by
  rw [ofNat, toNat, BitVec.toNat_ofNat]
  exact Nat.mod_eq_of_lt h

theorem toNat_offset (z : PageSize) (a : Address s) :
    (a.offset z).toNat = a.toNat % z.bytes.toNat :=
  toNat_and_mask z.bytes_isPowerOfTwo a.bits

theorem toNat_alignDown (z : PageSize) (a : Address s) :
    (a.alignDown z).toNat = a.toNat - a.toNat % z.bytes.toNat :=
  ProtectedBoot.toNat_alignDown z.bytes_isPowerOfTwo a.bits

theorem isAligned_iff_mod {z : PageSize} {a : Address s} :
    a.isAligned z = true ↔ a.toNat % z.bytes.toNat = 0 :=
  ProtectedBoot.isAligned_iff_mod z.bytes_isPowerOfTwo

theorem add?_eq_some_iff {a b : Address s} {d : Word} :
    a.add? d = some b ↔ a.toNat + d.toNat = b.toNat := by
  rw [add?, Option.map_eq_some_iff]
  constructor
  · rintro ⟨x, hx, rfl⟩
    exact ProtectedBoot.add?_eq_some_iff.1 hx
  · intro h
    exact ⟨b.bits, ProtectedBoot.add?_eq_some_iff.2 h, rfl⟩

theorem add_eq_ok_iff {a b : Address s} {d : Word} :
    a.add d = .ok b ↔ a.toNat + d.toNat = b.toNat := by
  rcases b with ⟨b⟩
  rw [← add?_eq_some_iff, add, add?, checkedAdd]
  cases ProtectedBoot.add? a.bits d <;> simp [Except.map]

/-- Within the space, an address has an address `d` further up. -/
theorem exists_add {a : Address s} {d : Nat} (fits : a.toNat + d < 0x100000000) :
    ∃ b, a.add (BitVec.ofNat 32 d) = .ok b ∧ b.toNat = a.toNat + d := by
  have distance : (BitVec.ofNat 32 d).toNat = d := by
    rw [BitVec.toNat_ofNat]
    exact Nat.mod_eq_of_lt (by omega)
  have place : (ofNat (a.toNat + d) : Address s).toNat = a.toNat + d := toNat_ofNat fits
  exact ⟨ofNat (a.toNat + d), add_eq_ok_iff.2 (by rw [distance, place]), place⟩

end Address

end ProtectedBoot
