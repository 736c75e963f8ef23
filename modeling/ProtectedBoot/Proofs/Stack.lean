import ProtectedBoot.Stack

/-!
# Where a stack starts and where it ends

The stack pointer is computed twice: from the end of a block that has its place, and, before there is a
place, as a distance from the start that the entry code adds. Rounding down a sum whose first part is
aligned rounds down the second part alone, so the two come to the same address (`top_of_aligned`).

Whether a block has an address is a question about naturals (`contains_iff`), also for a block that
leaves the address space; `bounds` are the first and the last address of such a block
(`contains_iff_bounds`).
-/

namespace ProtectedBoot

variable {base t : PhysAddr} {size : Word}

/-! ## The stack pointer -/

theorem stackAlignment_isPowerOfTwo : Platform.stackAlignment.toNat.isPowerOfTwo := ⟨4, rfl⟩

/-- The end of the block, rounded down. -/
theorem toNat_roundedEnd (e : PhysAddr) :
    (Address.mk (alignDown e.bits Platform.stackAlignment) : PhysAddr).toNat =
      e.toNat / 16 * 16 := by
  have sixteen : Platform.stackAlignment.toNat = 16 := rfl
  show (alignDown e.bits Platform.stackAlignment).toNat = _
  rw [toNat_alignDown stackAlignment_isPowerOfTwo, sixteen]
  exact Nat.div_mul_self_eq_mod_sub_self.symm

theorem stackTop_eq_some_iff :
    stackTop base size = some t ↔
      base.toNat + size.toNat < 0x100000000 ∧
        t.toNat = (base.toNat + size.toNat) / 16 * 16 := by
  rw [stackTop, Option.map_eq_some_iff]
  constructor
  · rintro ⟨e, sum, rfl⟩
    have at_e := Address.add?_eq_some_iff.1 sum
    have e_lt := e.toNat_lt
    exact ⟨by omega, by rw [toNat_roundedEnd, at_e]⟩
  · rintro ⟨fits, at_t⟩
    have at_e : (Address.ofNat (base.toNat + size.toNat) : PhysAddr).toNat = _ :=
      Address.toNat_ofNat fits
    refine ⟨_, Address.add?_eq_some_iff.2 at_e.symm, ?_⟩
    apply Address.ext_toNat
    rw [toNat_roundedEnd, at_e, at_t]

theorem stackTop_eq_none_iff :
    stackTop base size = none ↔ 0x100000000 ≤ base.toNat + size.toNat := by
  rw [stackTop, Option.map_eq_none_iff, Address.add?, Option.map_eq_none_iff]
  exact add?_eq_none_iff

/-- The distance from the start of a block to its stack pointer is its size, rounded down. -/
theorem StackBlock.topOffset_eq_some_iff {d : PhysAddr} :
    topOffset size.toNat = some d ↔ d.toNat = size.toNat / 16 * 16 := by
  have size_lt := size.isLt
  have start : (Address.zero : PhysAddr).toNat = 0 := rfl
  rw [topOffset, BitVec.ofNat_toNat, BitVec.setWidth_eq, stackTop_eq_some_iff, start, Nat.zero_add]
  exact and_iff_right size_lt

namespace StackRegion

variable {r : StackRegion}

/-! ## The addresses of a block -/

theorem contains_iff {a : PhysAddr} :
    r.contains a = true ↔
      r.base.toNat ≤ a.toNat ∧ a.toNat < r.base.toNat + r.size.toNat := by
  rw [contains, decide_eq_true_iff]
  omega

/-- The last address of a block, which no address lies behind. -/
theorem toNat_bounds_last (some_byte : 1 ≤ r.size.toNat) :
    r.bounds.2.toNat = min (r.base.toNat + r.size.toNat - 1) 0xFFFFFFFF := by
  have one : (1 : Word).toNat = 1 := rfl
  have largest : (BitVec.allOnes 32).toNat = 0xFFFFFFFF := rfl
  show (saturatingAdd r.base.bits (saturatingSub r.size 1)).toNat = _
  rw [toNat_saturatingAdd, toNat_saturatingSub, one, largest]
  show min (r.base.toNat + (r.size.toNat - 1)) 0xFFFFFFFF = _
  omega

/-- **A block is all that lies between its bounds**, even if it leaves the address space. -/
theorem contains_iff_bounds (some_byte : 1 ≤ r.size.toNat) {a : PhysAddr} :
    r.contains a = true ↔ r.bounds.1.toNat ≤ a.toNat ∧ a.toNat ≤ r.bounds.2.toNat := by
  have a_lt := a.toNat_lt
  have first : r.bounds.1.toNat = r.base.toNat := rfl
  rw [contains_iff, toNat_bounds_last some_byte, first]
  omega

/-- The first address of a block is not behind the last one. -/
theorem bounds_le (some_byte : 1 ≤ r.size.toNat) : r.bounds.1.toNat ≤ r.bounds.2.toNat := by
  have base_lt := r.base.toNat_lt
  have first : r.bounds.1.toNat = r.base.toNat := rfl
  rw [toNat_bounds_last some_byte, first]
  omega

/-! ## Both stack pointers -/

/-- **The stack pointer of a placed block is where the entry code puts it.** There is none exactly if
the block leaves the address space. For a block at an aligned address that does not, the stack pointer
is aligned, it is less than the alignment below the end of the block, and it is as far from the start as
was computed for a block without a place. All that is pushed goes into the block; and if the size of the
block is aligned, the stack pointer starts right behind it. -/
theorem top_of_aligned (r : StackRegion) :
    (stackTop r.base r.size = none ↔ 0x100000000 ≤ r.base.toNat + r.size.toNat) ∧
    (16 ∣ r.base.toNat → r.base.toNat + r.size.toNat < 0x100000000 →
      ∃ t d, stackTop r.base r.size = some t ∧ r.top = some t ∧
        StackBlock.topOffset r.size.toNat = some d ∧ t.toNat = r.base.toNat + d.toNat ∧ 16 ∣ t.toNat ∧
        r.base.toNat ≤ t.toNat ∧ t.toNat ≤ r.base.toNat + r.size.toNat ∧
        r.base.toNat + r.size.toNat - t.toNat < 16 ∧
        (∀ a : PhysAddr, r.base.toNat ≤ a.toNat → a.toNat < t.toNat → r.contains a = true) ∧
        (16 ∣ r.size.toNat → r.contains t = false)) := by
  refine ⟨stackTop_eq_none_iff, ?_⟩
  intro aligned fits
  have size_lt := r.size.isLt
  -- The pointer of the placed block, and the distance that is added without a place.
  have at_t : (Address.ofNat ((r.base.toNat + r.size.toNat) / 16 * 16) : PhysAddr).toNat = _ :=
    Address.toNat_ofNat (by omega)
  have at_d : (Address.ofNat (r.size.toNat / 16 * 16) : PhysAddr).toNat = _ :=
    Address.toNat_ofNat (by omega)
  have top := stackTop_eq_some_iff.2 ⟨fits, at_t⟩
  refine ⟨_, _, top, top, StackBlock.topOffset_eq_some_iff.2 at_d, ?_⟩
  rw [at_t, at_d]
  obtain ⟨k, start⟩ := aligned
  refine ⟨by omega, by omega, by omega, by omega, by omega, ?_, ?_⟩
  · intro a first_le lt
    exact contains_iff.2 ⟨first_le, by omega⟩
  · intro whole
    rw [← Bool.not_eq_true, contains_iff, at_t]
    omega

/-- A block of a size that is not aligned, up to the last byte but one of the address space. -/
theorem top_of_aligned_high :
    ∃ t d, stackTop ⟨0xFFFFF000⟩ 0xFFF = some t ∧ StackBlock.topOffset 0xFFF = some d ∧
      t.toNat = 0xFFFFF000 + d.toNat ∧ 16 ∣ t.toNat ∧ 0xFFFFFFFF - t.toNat < 16 := by
  obtain ⟨t, d, top, -, offset, there, aligned, -, -, close, -⟩ :=
    (top_of_aligned ⟨⟨0xFFFFF000⟩, 0xFFF⟩).2 (by decide) (by decide)
  exact ⟨t, d, top, offset, there, aligned, close⟩

end StackRegion

end ProtectedBoot
