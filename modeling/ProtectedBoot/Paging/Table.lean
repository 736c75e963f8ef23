import ProtectedBoot.Paging.Entry

/-!
# Directories and page tables

Both levels have 1024 slots. Bits 22 to 31 of a virtual address select the slot of the directory,
bits 12 to 21 that of the page table.
-/

namespace ProtectedBoot.Paging

/-- The number of slots in a directory or a page table. -/
def slotCount : Nat := 1024

/-- A position in a directory or a page table. -/
abbrev Slot := Fin slotCount

namespace Slot

/-- The slot with a given number; a fault if there is none. -/
def ofNumber (n : Nat) : Except Fault Slot :=
  if h : n < slotCount then .ok ⟨n, h⟩ else .error .indexOutOfTable

/-- The slot of the directory that an address selects. -/
def inDirectory (va : VirtAddr) : Slot :=
  ⟨(va.bits >>> 22).toNat, by
    rw [BitVec.toNat_ushiftRight, Nat.shiftRight_eq_div_pow]
    exact Nat.div_lt_of_lt_mul va.bits.isLt⟩

/-- The slot of the page table that an address selects. -/
def inTable (va : VirtAddr) : Slot :=
  ⟨(va.bits.extractLsb' 12 10).toNat, (va.bits.extractLsb' 12 10).isLt⟩

/-- The slots of both levels, by the numbers that an address has for them. A number is cut down to a
half word and then checked. -/
def ofAddress (va : VirtAddr) : Except Fault (Slot × Slot) := do
  let directory ← ofNumber ((va.bits >>> 22).setWidth 16).toNat
  let table ← ofNumber (((va.bits >>> 12) &&& 0x3FF).setWidth 16).toNat
  return (directory, table)

end Slot

/-- A page directory. -/
abbrev Directory := Vector DirEntry slotCount

/-- A page table. -/
abbrev PageTable := Vector TableEntry slotCount

/-- The directory without a mapping. -/
def Directory.empty : Directory := Vector.replicate slotCount DirEntry.empty

/-- The number of directory entries in use. -/
def Directory.presentCount (d : Directory) : Nat := d.countP DirEntry.isPresent

/-- The page table without a mapping. -/
def PageTable.empty : PageTable := Vector.replicate slotCount TableEntry.empty

/-- The number of table entries in use. -/
def PageTable.presentCount (t : PageTable) : Nat := t.countP TableEntry.isPresent

end ProtectedBoot.Paging
