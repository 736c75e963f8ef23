import ProtectedBoot.Segment.Loadable

/-!
# What a bound table is good for

The checks that a table passes before it is bound are made on access bytes and rings. Read off the
bits of the descriptor that a selector names, they are the demands of the processor
(`loadsCode_eq_true_iff`, `loadsData_eq_true_iff`). So the kernel's selectors name descriptors that
the processor loads at ring 0 in every bound table, whatever its descriptors are, and the pointer
covers the whole table (`BoundTable.kernelCode_loads`, `BoundTable.kernelData_loads`,
`BoundTable.pointer_covers`).
-/

namespace ProtectedBoot

/-! ## The access byte, bit by bit -/

theorem Ring.eq_iff_level_eq {r q : Ring} : r = q ↔ r.level = q.level := by
  constructor
  · exact congrArg level
  · intro same
    rw [← r.ofBits_level, same, q.ofBits_level]

namespace Descriptor

theorem isSet_access (f : Flag 8) (d : Descriptor) :
    f.isSet d.access = d.bits.getLsbD (40 + f.offset) := by
  have inside : f.offset < 8 := f.offset_add_le
  rw [Field.isSet, access, Field.get, BitVec.getLsbD_extractLsb']
  simp [accessField, inside]

theorem level_ringOf_access (d : Descriptor) : (AccessByte.ringOf d.access).level = d.level := by
  have field : AccessByte.ring.get d.access = d.bits.extractLsb' 45 2 := by
    apply BitVec.eq_of_getLsbD_eq
    intro i hi
    have inside : 5 + i < 8 := by omega
    simp [AccessByte.ring, access, accessField, Field.get, hi, inside, ← Nat.add_assoc]
  rw [AccessByte.ringOf, Ring.level_ofBits, field, level]
  exact Nat.mod_eq_of_lt (BitVec.isLt _)

end Descriptor

/-! ## Selectors that can be loaded -/

namespace GlobalTable

variable {shape : TableShape} {t : GlobalTable shape} {running : Ring}

theorem permits_entry_iff {d : Descriptor} :
    (if AccessByte.directionConforming.isSet d.access = true then
        (AccessByte.ringOf d.access).permitsConforming running
      else (AccessByte.ringOf d.access).permitsCode running) = true ↔
      d.level = running.level ∨ d.bits.getLsbD 42 = true ∧ d.level ≤ running.level := by
  have bit : AccessByte.directionConforming.isSet d.access = d.bits.getLsbD 42 := d.isSet_access _
  rw [bit]
  cases d.bits.getLsbD 42
  · simp [Ring.permitsCode, Ring.eq_iff_level_eq, Descriptor.level_ringOf_access]
  · simp only [if_true, Ring.permitsConforming, decide_eq_true_eq, Descriptor.level_ringOf_access,
      true_and]
    omega

/-- Control may pass to a selector when it may pass into the segment that the selector names. -/
theorem loadsCode_eq_true_iff {s : Selector .code} :
    t.loadsCode s running = true ↔
      ∃ d, t.descriptor? s = some d ∧ d.LoadsAsCode running.level := by
  rw [loadsCode]
  rcases t.descriptor? s with _ | d
  · simp
  · simp only [Option.some.injEq, exists_eq_left', Bool.and_eq_true, permits_entry_iff]
    simp only [Descriptor.isSet_access]
    constructor
    · rintro ⟨⟨⟨present, ordinary⟩, executable⟩, entered⟩
      exact ⟨present, ordinary, executable, entered⟩
    · rintro ⟨present, ordinary, executable, entered⟩
      exact ⟨⟨⟨present, ordinary⟩, executable⟩, entered⟩

theorem permits_load_iff {d : Descriptor} {asked : Ring} :
    ((AccessByte.ringOf d.access).permitsData running asked = true ∧
        (AccessByte.ringOf d.access).permitsStack running asked = true) ↔
      asked = running ∧ d.level = running.level := by
  simp only [Ring.permitsStack, Bool.and_eq_true, beq_iff_eq]
  constructor
  · rintro ⟨-, level, same⟩
    rw [← level, Descriptor.level_ringOf_access]
    exact ⟨same.trans level.symm, rfl⟩
  · rintro ⟨rfl, level⟩
    have level : AccessByte.ringOf d.access = asked := by
      rw [Ring.eq_iff_level_eq, Descriptor.level_ringOf_access, level]
    simp [level, Ring.permitsData, Ring.effective]

/-- The data segment registers may take a selector when they may take the segment that the selector
names, and the selector asks for the level of the running code. -/
theorem loadsData_eq_true_iff {s : Selector .data} :
    t.loadsData s running = true ↔
      s.ring = running ∧ ∃ d, t.descriptor? s = some d ∧ d.LoadsAsData running.level := by
  rw [loadsData]
  rcases t.descriptor? s with _ | d
  · simp
  · simp only [Option.some.injEq, exists_eq_left', Bool.and_eq_true, and_assoc, permits_load_iff,
      Descriptor.isSet_access, Bool.not_eq_true']
    constructor
    · rintro ⟨present, ordinary, not_executable, writable, asked, level⟩
      exact ⟨asked, present, ordinary, not_executable, writable, level⟩
    · rintro ⟨asked, present, ordinary, not_executable, writable, level⟩
      exact ⟨present, ordinary, not_executable, writable, asked, level⟩

/-! ## The table -/

theorem checkAccess_eq_ok_iff : t.checkAccess = .ok () ↔ ∀ v ∈ t.verdicts, v.2 = true := by
  rw [checkAccess]
  split
  · rename_i v denied
    simp only [reduceCtorEq, false_iff]
    intro all
    have refused := List.find?_some denied
    rw [all v (List.mem_of_find?_eq_some denied)] at refused
    cases refused
  · rename_i none_denied
    simpa using none_denied

/-- Every table is judged by the kernel's selectors. -/
theorem kernel_verdicts_mem (t : GlobalTable shape) :
    (kernelCode.bits, t.loadsCode kernelCode .ring0) ∈ t.verdicts ∧
      (kernelData.bits, t.loadsData kernelData .ring0) ∈ t.verdicts := by
  rw [verdicts]
  split <;> simp

theorem pointerAt_eq_ok_iff {base : Word} {p : TablePointer} :
    t.pointerAt base = .ok p ↔
      8 ∣ base.toNat ∧ base.toNat + t.limit.toNat < 0x100000000 ∧ p = ⟨t.limit, base⟩ := by
  have wide : (t.limit.setWidth 32).toNat = t.limit.toNat :=
    BitVec.toNat_setWidth_of_le (by decide)
  have reach : (add? base (t.limit.setWidth 32)).isNone = true ↔
      ¬ base.toNat + t.limit.toNat < 0x100000000 := by
    rw [Option.isNone_iff_eq_none, Nat.not_lt, ← wide]
    exact add?_eq_none_iff
  rw [pointerAt, Nat.dvd_iff_mod_eq_zero]
  split
  · rename_i misaligned
    simp [misaligned]
  · rename_i aligned
    rw [Decidable.not_not] at aligned
    simp only [reach, aligned, true_and, ite_not]
    split
    · rename_i fits
      simp only [Except.ok.injEq, fits, true_and]
      exact eq_comm
    · rename_i past
      simp [past]

theorem toNat_limit (t : GlobalTable shape) : t.limit.toNat = 8 * shape.entries - 1 := by
  cases shape <;> rfl

/-- A selector that the table has a descriptor for leads to that descriptor. -/
theorem descriptor?_eq_some_iff {c : SegmentClass} {s : Selector c} {d : Descriptor} :
    t.descriptor? s = some d ↔
      s.table = .gdt ∧ s.index ≠ 0 ∧ t.descriptors[s.index]? = some d := by
  rw [descriptor?]
  split
  · rename_i named
    simp [named]
  · rename_i unnamed
    simp only [reduceCtorEq, false_iff]
    rintro ⟨global, not_null, -⟩
    exact unnamed ⟨global, not_null⟩

end GlobalTable

/-! ## Bound tables -/

namespace BoundTable

variable {shape : TableShape}

theorem pointer_covers (b : BoundTable shape) : b.pointer.Covers shape.entries := by
  obtain ⟨aligned, reach, same⟩ := GlobalTable.pointerAt_eq_ok_iff.1 b.located
  have at_limit : b.pointer.limit = b.table.limit := congrArg TablePointer.limit same
  rw [← at_limit] at reach
  exact ⟨at_limit ▸ b.table.toNat_limit, aligned, reach⟩

theorem names_of_descriptor {c : SegmentClass} {s : Selector c} {d : Descriptor}
    (b : BoundTable shape) (found : b.table.descriptor? s = some d) : b.Names s d := by
  obtain ⟨global, not_null, descriptor⟩ := GlobalTable.descriptor?_eq_some_iff.1 found
  obtain ⟨inside, -⟩ := Vector.getElem?_eq_some_iff.1 descriptor
  refine ⟨global, not_null, descriptor, ?_⟩
  rw [b.pointer_covers.limit_eq]
  omega

/-- **The kernel's code can be entered** in every bound table. -/
theorem kernelCode_loads (b : BoundTable shape) :
    ∃ d, b.Names kernelCode d ∧ d.LoadsAsCode 0 := by
  have accepted := GlobalTable.checkAccess_eq_ok_iff.1 b.accessible _ b.table.kernel_verdicts_mem.1
  obtain ⟨d, found, loads⟩ := GlobalTable.loadsCode_eq_true_iff.1 accepted
  exact ⟨d, b.names_of_descriptor found, loads⟩

/-- **The kernel's data can be loaded** in every bound table. -/
theorem kernelData_loads (b : BoundTable shape) :
    ∃ d, b.Names kernelData d ∧ d.LoadsAsData 0 := by
  have accepted := GlobalTable.checkAccess_eq_ok_iff.1 b.accessible _ b.table.kernel_verdicts_mem.2
  obtain ⟨-, d, found, loads⟩ := GlobalTable.loadsData_eq_true_iff.1 accepted
  exact ⟨d, b.names_of_descriptor found, loads⟩

end BoundTable

end ProtectedBoot
