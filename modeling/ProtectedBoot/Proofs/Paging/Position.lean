import ProtectedBoot.Paging.Table
import ProtectedBoot.Proofs.Page

/-!
# Where an address lies

The slots that an address selects are its fields, read as numbers (`Slot.inDirectory_val`,
`Slot.inTable_val_eq_mod`). Each is the number of a slot, so no check of an index fails
(`Slot.ofAddress_eq`), and moved back to their places the fields make up the address again
(`bits_eq_fields`).

An address therefore lies in one place only, however it is taken apart: into a page of either size and
an offset, or into two slots and an offset (`decomposition_bijective`).
-/

namespace ProtectedBoot.Paging

/-! ## Slots in numbers -/

theorem Slot.inDirectory_val (va : VirtAddr) : (Slot.inDirectory va).val = va.toNat / 4194304 := by
  show (va.bits >>> 22).toNat = _
  rw [BitVec.toNat_ushiftRight, Nat.shiftRight_eq_div_pow]
  rfl

theorem Slot.inDirectory_ofNat {a : Nat} (lt : a < 0x100000000) :
    (Slot.inDirectory (.ofNat a)).val = a / 4194304 := by
  rw [inDirectory_val, Address.toNat_ofNat lt]

theorem Slot.inTable_val (va : VirtAddr) :
    (Slot.inTable va).val = ((va.bits >>> 12) &&& 0x3FF).toNat := by
  have mask : (0x3FF : Word).toNat = 2 ^ 10 - 1 := rfl
  rw [BitVec.toNat_and, mask, Nat.and_two_pow_sub_one_eq_mod, BitVec.toNat_ushiftRight]
  exact BitVec.extractLsb'_toNat ..

theorem Slot.inTable_val_eq_mod (va : VirtAddr) :
    (Slot.inTable va).val = va.toNat / 4096 % 1024 := by
  show (va.bits.extractLsb' 12 10).toNat = _
  rw [BitVec.extractLsb'_toNat, Nat.shiftRight_eq_div_pow]
  rfl

/-- Two addresses lie in one large page when they select the same slot. -/
theorem inDirectory_eq_iff {v w : VirtAddr} :
    Slot.inDirectory v = Slot.inDirectory w ↔ v.toNat / 4194304 = w.toNat / 4194304 := by
  rw [Fin.ext_iff, Slot.inDirectory_val, Slot.inDirectory_val]

/-- Two addresses lie in one small page when they select the same slots at both levels. -/
theorem inDirectory_eq_and_inTable_eq_iff {v w : VirtAddr} :
    Slot.inDirectory v = Slot.inDirectory w ∧ Slot.inTable v = Slot.inTable w ↔
      v.toNat / 4096 = w.toNat / 4096 := by
  rw [inDirectory_eq_iff, Fin.ext_iff, Slot.inTable_val_eq_mod, Slot.inTable_val_eq_mod]
  omega

/-! ## Slots by their numbers -/

/-- A number that is that of a slot passes the check, and is not changed by being cut to a half word. -/
theorem Slot.ofNumber_setWidth {x : Word} {s : Slot} (number : x.toNat = s.val) :
    ofNumber (x.setWidth 16).toNat = .ok s := by
  have s_lt : s.val < 1024 := s.isLt
  have kept : (x.setWidth 16).toNat = s.val := by
    rw [BitVec.toNat_setWidth, number]
    exact Nat.mod_eq_of_lt (by omega)
  rw [kept]
  exact dif_pos s_lt

/-- **No index is out of range.** -/
theorem Slot.ofAddress_eq (va : VirtAddr) : ofAddress va = .ok (inDirectory va, inTable va) := by
  have directory : ofNumber ((va.bits >>> 22).setWidth 16).toNat = .ok (inDirectory va) :=
    ofNumber_setWidth rfl
  have table : ofNumber (((va.bits >>> 12) &&& 0x3FF).setWidth 16).toNat = .ok (inTable va) :=
    ofNumber_setWidth (inTable_val va).symm
  rw [ofAddress, directory, table]
  rfl

/-- **The fields of an address make it up again.** -/
theorem bits_eq_fields (va : VirtAddr) :
    va.bits = (BitVec.ofNat 32 (Slot.inDirectory va).val <<< 22) |||
      (BitVec.ofNat 32 (Slot.inTable va).val <<< 12) ||| (va.bits &&& 0xFFF) := by
  have va_lt := va.toNat_lt
  have offset_at : (va.bits &&& 0xFFF).toNat = va.toNat % 4096 := va.toNat_offset .kib4
  have directory_at : (BitVec.ofNat 32 (Slot.inDirectory va).val <<< 22).toNat =
      va.toNat / 4194304 * 4194304 := by
    rw [Slot.inDirectory_val]
    exact PageSize.toNat_shiftLeft_shift .mib4 (by rw [PageSize.toNat_bytes_mib4]; omega)
  have table_at : (BitVec.ofNat 32 (Slot.inTable va).val <<< 12).toNat =
      va.toNat / 4096 % 1024 * 4096 := by
    rw [Slot.inTable_val_eq_mod]
    exact PageSize.toNat_shiftLeft_shift .kib4 (by rw [PageSize.toNat_bytes_kib4]; omega)
  -- The table's field lies within a large page, and the offset within a small one.
  have page_at : ((BitVec.ofNat 32 (Slot.inDirectory va).val <<< 22) |||
      (BitVec.ofNat 32 (Slot.inTable va).val <<< 12)).toNat = va.toNat / 4096 * 4096 := by
    rw [toNat_or_of_dvd PageSize.mib4.bytes_isPowerOfTwo, directory_at, table_at]
    · omega
    · rw [directory_at]
      exact Nat.dvd_mul_left ..
    · rw [table_at, PageSize.toNat_bytes_mib4]
      omega
  apply BitVec.eq_of_toNat_eq
  rw [toNat_or_of_dvd PageSize.kib4.bytes_isPowerOfTwo, page_at, offset_at]
  · exact (Nat.div_add_mod' va.toNat 4096).symm
  · rw [page_at]
    exact Nat.dvd_mul_left ..
  · rw [offset_at]
    exact Nat.mod_lt _ (by decide)

/-! ## All of it -/

/-- **An address is taken apart without loss**, at both page sizes. Splitting yields an offset within the
page and the start of a page, and joining these is no fault and gives the address back. What is joined
to a page within its size is split into the same parts again, and what is not faults. A page is made
from its number again; going on from page to page meets the page with each number that follows, one
after the other, and no page from where the numbers of pages end, and this is what a walk lists. And the
slots that an address selects pass the check of their indices, and make up the address with the offset. -/
theorem decomposition_bijective (s : Space) (z : PageSize) :
    (∀ a : Address s, ∃ (p : Page s z) (o : Word), Page.split a = (p, o) ∧
      o.toNat < z.bytes.toNat ∧ z.bytes.toNat ∣ p.base.toNat ∧ p.join o = .ok a) ∧
    (∀ (p : Page s z) (o : Word),
      (o.toNat < z.bytes.toNat → ∃ a, p.join o = .ok a ∧ Page.split a = (p, o)) ∧
      (z.bytes.toNat ≤ o.toNat → p.join o = .error .offsetOutsidePage)) ∧
    (∀ p : Page s z, Page.ofNumber p.number = p ∧
      (∀ n, (∃ q, p.after? n = some q ∧ q.number.toNat = p.number.toNat + n) ↔
        p.number.toNat + n < 0x100000000 / z.bytes.toNat) ∧
      (∀ n, p.after? n = none ↔ 0x100000000 / z.bytes.toNat ≤ p.number.toNat + n) ∧
      ∀ steps, p.walk steps = (List.range steps).map fun n => p.after? (n + 1)) ∧
    ∀ va : VirtAddr, ∃ directory table, Slot.ofAddress va = .ok (directory, table) ∧
      directory = Slot.inDirectory va ∧ table = Slot.inTable va ∧
      directory.val < 1024 ∧ table.val < 1024 ∧
      va.bits = (BitVec.ofNat 32 directory.val <<< 22) ||| (BitVec.ofNat 32 table.val <<< 12) |||
        (va.bits &&& 0xFFF) := by
  refine ⟨?split, ?join, ?number, ?slots⟩
  case split =>
    intro a
    have parts : Page.split a = (Page.containing a, a.offset z) := rfl
    obtain ⟨inside, -⟩ := Page.split_eq_iff.1 parts
    exact ⟨_, _, parts, inside, Page.dvd_base _, Page.split_eq_iff_join.1 parts⟩
  case join =>
    intro p o
    refine ⟨?_, Page.join_of_le⟩
    intro inside
    obtain ⟨a, joined⟩ := Page.exists_join p inside
    exact ⟨a, joined, Page.split_eq_iff_join.2 joined⟩
  case number =>
    intro p
    refine ⟨p.ofNumber_number, ?_, fun n => Page.after?_eq_none_iff, p.walk_eq_map_after?⟩
    intro n
    constructor
    · rintro ⟨q, -, at_q⟩
      exact at_q ▸ q.number_lt
    · intro lt
      obtain ⟨q, at_q⟩ := Page.exists_number lt
      exact ⟨q, Page.after?_eq_some_iff.2 at_q, at_q⟩
  case slots =>
    intro va
    exact ⟨_, _, Slot.ofAddress_eq va, rfl, rfl, (Slot.inDirectory va).isLt, (Slot.inTable va).isLt,
      bits_eq_fields va⟩

/-- The last byte of the address space, and the page it lies in: there is none after it. -/
theorem decomposition_bijective_at_the_end :
    (∃ (p : VirtPage .kib4) (o : Word), Page.split ⟨0xFFFFFFFF⟩ = (p, o) ∧ o.toNat < 4096 ∧
      p.join o = .ok ⟨0xFFFFFFFF⟩ ∧ p.join 4096 = .error .offsetOutsidePage) ∧
    (∃ a, (Page.containing ⟨0xFFFFFFFF⟩ : VirtPage .kib4).join 0xABC = .ok a ∧
      Page.split a = ((Page.containing ⟨0xFFFFFFFF⟩ : VirtPage .kib4), 0xABC)) ∧
    (Page.containing ⟨0xFFFFFFFF⟩ : VirtPage .kib4).after? 1 = none := by
  obtain ⟨split, join, number, -⟩ := decomposition_bijective .virtual .kib4
  obtain ⟨-, -, ends, -⟩ := number (Page.containing ⟨0xFFFFFFFF⟩)
  obtain ⟨p, o, parts, inside, -, joined⟩ := split ⟨0xFFFFFFFF⟩
  exact ⟨⟨p, o, parts, inside, joined, (join p 4096).2 (by decide)⟩,
    (join _ 0xABC).1 (by decide), (ends 1).2 (by decide)⟩

end ProtectedBoot.Paging
