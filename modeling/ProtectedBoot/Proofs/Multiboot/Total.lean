import ProtectedBoot.Proofs.Multiboot.Available

/-!
# How much memory is free in all

The free bytes are added up in a double word, and nothing about a memory map limits the lengths of its
regions. The sum and with it the report come to their end exactly where the exact number of bytes is a
double word; where it is not, the sum faults, and the report breaks off before its last record
(`report_decided`). Free regions that do not overlap are no exception: two halves of the address space
make up one byte more than a double word can say (`halves_overflow`).
-/

namespace ProtectedBoot.Multiboot

/-! ## Sums -/

section Sums

variable {w : Nat} {l : List (BitVec w)} {x : BitVec w}

/-- A sum that fits is found: none of its parts is larger than the whole. -/
theorem exists_sum (lt : x.toNat + (l.map BitVec.toNat).sum < 2 ^ w) :
    ∃ z, l.foldlM checkedAdd x = .ok z ∧ z.toNat = x.toNat + (l.map BitVec.toNat).sum := by
  induction l generalizing x with
  | nil => exact ⟨x, rfl, rfl⟩
  | cons y rest ih =>
    rw [List.map_cons, List.sum_cons, ← Nat.add_assoc] at lt ⊢
    obtain ⟨s, step, s_at⟩ := exists_checkedAdd (Nat.lt_of_le_of_lt (Nat.le_add_right _ _) lt)
    rw [s_at] at lt ⊢
    obtain ⟨z, found, z_at⟩ := ih lt
    refine ⟨z, ?_, z_at⟩
    rw [List.foldlM_cons, step]
    exact found

/-- A sum that does not fit faults, at the part that goes beyond. -/
theorem sum_of_le (le : 2 ^ w ≤ x.toNat + (l.map BitVec.toNat).sum) :
    l.foldlM checkedAdd x = .error .addOverflow := by
  induction l generalizing x with
  | nil => exact absurd le (Nat.not_le.2 x.isLt)
  | cons y rest ih =>
    rw [List.map_cons, List.sum_cons, ← Nat.add_assoc] at le
    rw [List.foldlM_cons]
    by_cases fits : x.toNat + y.toNat < 2 ^ w
    · obtain ⟨s, step, s_at⟩ := exists_checkedAdd fits
      rw [step]
      rw [s_at] at le
      exact ih le
    · rw [checkedAdd_of_le (Nat.le_of_not_lt fits)]
      rfl

end Sums

/-! ## The report -/

namespace MemoryMap

variable {m : MemoryMap}

theorem availableTotal_eq (m : MemoryMap) :
    m.availableTotal = (0 : DoubleWord).toNat + ((m.available.map Region.length).map BitVec.toNat).sum := by
  rw [List.map_map, List.sum, List.foldr_map]
  exact (Nat.zero_add _).symm

theorem exists_availableBytes (lt : m.availableTotal < 2 ^ 64) :
    ∃ z, m.availableBytes = .ok z ∧ z.toNat = m.availableTotal := by
  rw [availableTotal_eq] at lt ⊢
  exact exists_sum lt

theorem availableBytes_of_le (le : 2 ^ 64 ≤ m.availableTotal) :
    m.availableBytes = .error .addOverflow := by
  rw [availableTotal_eq] at le
  exact sum_of_le le

/-- A map without regions has no free bytes. -/
theorem availableTotal_of_nil (none_told : m.regions = []) : m.availableTotal = 0 := by
  unfold availableTotal available
  rw [none_told]
  rfl

end MemoryMap

namespace BootInfo

variable {b : BootInfo}

theorem report_of_lt (lt : b.memoryMap.availableTotal < 2 ^ 64) :
    b.report = (.ok (), b.openingRecords ++ b.totalRecords) := by
  obtain ⟨z, found, z_at⟩ := MemoryMap.exists_availableBytes lt
  have closing : b.closingRecords = .ok b.totalRecords := by
    unfold closingRecords totalRecords
    by_cases none_told : b.memoryMap.regions = []
    · rw [if_pos none_told, if_pos (List.isEmpty_iff.2 none_told)]
    · rw [if_neg none_told, if_neg (mt List.isEmpty_iff.1 none_told), found, ← z_at]
      rfl
  unfold report
  rw [closing]

theorem report_of_le (le : 2 ^ 64 ≤ b.memoryMap.availableTotal) :
    b.report = (.error .addOverflow, b.openingRecords) := by
  have told : b.memoryMap.regions ≠ [] := by
    intro none_told
    rw [MemoryMap.availableTotal_of_nil none_told] at le
    exact absurd le (by decide)
  have closing : b.closingRecords = .error .addOverflow := by
    unfold closingRecords
    rw [if_neg (mt List.isEmpty_iff.1 told), MemoryMap.availableBytes_of_le le]
    rfl
  unfold report
  rw [closing]

/-- **When the free bytes can be added up.** Whatever the map contains, the sum of the free bytes and
the report come to their end and say the exact number, provided that it is a double word; and
otherwise both fault, and the report breaks off before its last record. -/
theorem report_decided (b : BootInfo) :
    (b.memoryMap.availableTotal < 2 ^ 64 →
      (∃ z, b.memoryMap.availableBytes = .ok z ∧ z.toNat = b.memoryMap.availableTotal) ∧
        b.report = (.ok (), b.openingRecords ++ b.totalRecords)) ∧
    (2 ^ 64 ≤ b.memoryMap.availableTotal →
      b.memoryMap.availableBytes = .error .addOverflow ∧
        b.report = (.error .addOverflow, b.openingRecords)) := by
  constructor
  · intro lt
    exact ⟨MemoryMap.exists_availableBytes lt, report_of_lt lt⟩
  · intro le
    exact ⟨MemoryMap.availableBytes_of_le le, report_of_le le⟩

/-- Regions that overlap count twice. -/
theorem nested_total :
    ∃ z, nested.memoryMap.availableBytes = .ok z ∧ z.toNat = 0x12000 := by
  have total : nested.memoryMap.availableTotal = 0x12000 := by
    unfold MemoryMap.availableTotal MemoryMap.available
    rw [regions_nested]
    decide
  obtain ⟨⟨z, found, z_at⟩, -⟩ := (report_decided nested).1 (by rw [total]; decide)
  exact ⟨z, found, z_at.trans total⟩

/-! ## Regions that are too long -/

theorem nothing_extra : ([] : List Byte).length + 20 < 0x100000000 := by decide

/-- The lower half of the address space, and the upper half. -/
def halfRecords : List MapRecord :=
  [⟨0, 0x8000000000000000, 1, [], nothing_extra⟩,
    ⟨0x8000000000000000, 0x8000000000000000, 1, [], nothing_extra⟩]

/-- What a boot loader passed on that announced nothing but the map of those records. -/
def halves : BootInfo where
  information := .ofWords fun k => if k = 0 then 0x40 else 0
  memoryMap := ⟨.ofList (MapRecord.concat halfRecords)⟩
  nameBytes := none

theorem regions_halves : halves.memoryMap.regions =
    [⟨0, 0x8000000000000000, .available⟩,
      ⟨0x8000000000000000, 0x8000000000000000, .available⟩] :=
  MapRecord.regions_concat halfRecords

/-- The two halves do not overlap, and their lengths do not add up. -/
theorem halves_overflow :
    BootInfo.validate loaderMagic halves.information halves.memoryMap none = .ok halves ∧
      halves.memoryMap.available.Pairwise Region.Apart ∧
      halves.memoryMap.availableBytes = .error .addOverflow ∧
      halves.report = (.error .addOverflow, halves.openingRecords) := by
  have available : halves.memoryMap.available = halves.memoryMap.regions := by
    unfold MemoryMap.available
    rw [regions_halves]
    decide
  have total : 2 ^ 64 ≤ halves.memoryMap.availableTotal := by
    unfold MemoryMap.availableTotal
    rw [available, regions_halves]
    decide
  refine ⟨rfl, ?_, MemoryMap.availableBytes_of_le total, report_of_le total⟩
  rw [available, regions_halves, List.pairwise_pair]
  exact .inl (by decide)

end BootInfo

end ProtectedBoot.Multiboot
