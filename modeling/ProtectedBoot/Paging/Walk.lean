import ProtectedBoot.Memory
import ProtectedBoot.Paging.AddressSpace

/-!
# The walk of the paging unit

The paging unit knows neither pools nor kinds of entries. It reads a word of the directory, and unless
that word maps a large page, a word of the table that it names; both from memory, at addresses made of
the bits of other words. `walk` is that reading, said with nothing but masks, as the manual of a
processor with large pages would say it.

`AddressSpace.LiesIn` says that a memory holds the block of an address space, entry by entry, and
`AddressSpace.liesIn_image` that there is such a memory for every address space. The two together are
what translation by the address space is measured against.
-/

namespace ProtectedBoot.Paging

/-! ## The walk -/

/-- Where a walk ends, and what the entries on the way allow. -/
structure Translation where
  address : PhysAddr
  /-- User code has access. -/
  user : Bool
  /-- Writes are allowed. -/
  writable : Bool
deriving DecidableEq

/-- The translation of an address by the directory at `directory`, if every entry on the way is in
use. Bit 0 of an entry tells whether it is, bit 1 allows writes, bit 2 admits user code, and bit 7 of
a directory entry makes it map a large page. A page that two entries lead to grants what both do. -/
def walk (m : Memory) (directory : PhysAddr) (va : VirtAddr) : Option Translation :=
  let e := m.word (directory.toNat + 4 * (va.bits >>> 22).toNat)
  if !e.getLsbD 0 then none
  else if e.getLsbD 7 then
    some ⟨⟨(e &&& 0xFFC00000) ||| (va.bits &&& 0x3FFFFF)⟩, e.getLsbD 2, e.getLsbD 1⟩
  else
    let f := m.word ((e &&& 0xFFFFF000).toNat + 4 * ((va.bits >>> 12) &&& 0x3FF).toNat)
    if !f.getLsbD 0 then none
    else some ⟨⟨(f &&& 0xFFFFF000) ||| (va.bits &&& 0xFFF)⟩,
      e.getLsbD 2 && f.getLsbD 2, e.getLsbD 1 && f.getLsbD 1⟩

/-! ## An address space in memory -/

namespace AddressSpace

variable {n : Nat}

/-- A memory holds the block of an address space: the directory at its base, and behind it one table
after the other. -/
structure LiesIn (t : AddressSpace n) (m : Memory) : Prop where
  directory : ∀ s : Slot, m.word (t.base.toNat + 4 * s.val) = (t.dirEntry s).bits
  table : ∀ (i : Fin n) (s : Slot),
    m.word (t.base.toNat + 4096 * (i.val + 1) + 4 * s.val) = (t.tableEntry i s).bits

/-- The words of the block in turn: those of the directory, and then those of the tables. -/
def blockWord (t : AddressSpace n) (k : Nat) : Word :=
  let slot : Slot := ⟨k % 1024, Nat.mod_lt k (by decide)⟩
  match k / 1024 with
  | 0 => (t.dirEntry slot).bits
  | i + 1 => if h : i < n then (t.tableEntry ⟨i, h⟩ slot).bits else 0

/-- The memory that holds the block of the address space and is zero elsewhere. -/
def image (t : AddressSpace n) : Memory where
  byte a :=
    if a < t.base.toNat then 0
    else
      let distance := a - t.base.toNat
      (t.blockWord (distance / 4)).extractLsb' (8 * (distance % 4)) 8

theorem word_image (t : AddressSpace n) (k : Nat) :
    t.image.word (t.base.toNat + 4 * k) = t.blockWord k := by
  have byte (j : Nat) (hj : j < 4) :
      t.image.byte (t.base.toNat + 4 * k + j) = (t.blockWord k).extractLsb' (8 * j) 8 := by
    have h : ¬ t.base.toNat + 4 * k + j < t.base.toNat := by omega
    have hd : (t.base.toNat + 4 * k + j - t.base.toNat) / 4 = k := by omega
    have hm : (t.base.toNat + 4 * k + j - t.base.toNat) % 4 = j := by omega
    simp only [image, if_neg h, hd, hm]
  rw [Memory.word]
  have b₀ := byte 0 (by decide)
  rw [Nat.add_zero] at b₀
  rw [b₀, byte 1 (by decide), byte 2 (by decide), byte 3 (by decide)]
  exact ofBytes32_extract _

/-- **Every address space lies in some memory.** -/
theorem liesIn_image (t : AddressSpace n) : t.LiesIn t.image where
  directory s := by
    have hs : s.val < 1024 := s.isLt
    have hd : s.val / 1024 = 0 := Nat.div_eq_of_lt hs
    have hm : s.val % 1024 = s.val := Nat.mod_eq_of_lt hs
    rw [word_image]
    simp only [blockWord, hd, hm]
  table i s := by
    have hs : s.val < 1024 := s.isLt
    have hd : (1024 * (i.val + 1) + s.val) / 1024 = i.val + 1 := by omega
    have hm : (1024 * (i.val + 1) + s.val) % 1024 = s.val := by omega
    have ha : t.base.toNat + 4096 * (i.val + 1) + 4 * s.val =
        t.base.toNat + 4 * (1024 * (i.val + 1) + s.val) := by omega
    rw [ha, word_image]
    simp only [blockWord, hd, hm, dif_pos i.isLt]

end AddressSpace

end ProtectedBoot.Paging
