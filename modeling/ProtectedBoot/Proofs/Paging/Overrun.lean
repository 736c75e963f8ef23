import ProtectedBoot.Proofs.Paging.Granularity

/-!
# When building faults

Nearly every stop of a build is a refusal. There are two that are not: an image that ends before it
starts has no length, and a table of the pool that lies behind the end of memory has no address. So a
build faults in two ways and no other, whatever was mapped before (`build_fault_iff`).
-/

namespace ProtectedBoot.Paging

open AddressSpace

variable {n : Nat} {base : PhysAddr} {c : PagingConfig}

/-- A lacking table is a fault just if the pool has one left, and then a sum is too large. -/
theorem lackOfTable_eq_fault_iff {f : Fault} :
    lackOfTable n base = .fault f ↔ tableRoom base < n ∧ f = .addOverflow := by
  unfold lackOfTable
  split
  · rename_i beyond
    simp [beyond, eq_comm]
  · rename_i inside
    simp [inside]

theorem tableCount_of_lt (beyond : tableRoom base < n) : tableCount n base = tableRoom base :=
  Nat.min_eq_right (Nat.le_of_lt beyond)

namespace BuildCourse

variable {α : Type} {outcome : Except (Stop PagingError) α} (course : BuildCourse n base c outcome)

include course

/-- A build that faults has one of the two reasons. -/
theorem reason_of_fault {f : Fault} (fault : outcome = .error (.fault f)) :
    f = .subOverflow ∧ c.Reversed n base ∨ f = .addOverflow ∧ c.Overruns n base := by
  cases course with
  | misplaced | lowOverflow | upperOverflow | clash | done => cases fault
  | reversed reversed =>
    cases fault
    exact .inl ⟨rfl, reversed⟩
  | lowTables base_aligned low_lt small short =>
    obtain ⟨beyond, rfl⟩ := lackOfTable_eq_fault_iff.1 (Except.error.inj fault)
    rw [tableCount_of_lt beyond] at short
    exact .inr ⟨rfl, small, base_aligned, low_lt, beyond, .inl short⟩
  | upperTables low upper small short =>
    obtain ⟨beyond, rfl⟩ := lackOfTable_eq_fault_iff.1 (Except.error.inj fault)
    rw [tableCount_of_lt beyond] at short
    exact .inr ⟨rfl, small, low.base_aligned, low.low_lt, beyond, .inr ⟨upper, short⟩⟩

/-- An image that ends before it starts meets every demand that is made before it is measured. -/
theorem eq_of_reversed (reversed : c.Reversed n base) : outcome = .error (.fault .subOverflow) := by
  obtain ⟨low, first_lt, image_lt⟩ := reversed
  have first_eq := c.upperFirst_eq
  have stop_eq := c.upperStop_eq
  cases course with
  | misplaced off => exact absurd low.base_aligned off
  | lowOverflow _ long => exact absurd low.low_lt (Nat.not_lt.2 long)
  | lowTables _ _ small short => exact absurd (low.low_tables small) (Nat.not_le.2 short)
  | upperOverflow => omega
  | reversed => rfl
  | clash _ image_le => omega
  | upperTables _ upper => exact absurd upper.image_le (Nat.not_le.2 image_lt)
  | done _ upper => exact absurd upper.image_le (Nat.not_le.2 image_lt)

/-- Where a table behind the end of memory is needed, nothing else is in the way. -/
theorem eq_of_overruns (overruns : c.Overruns n base) : outcome = .error (.fault .addOverflow) := by
  obtain ⟨small, base_aligned, low_lt, beyond, demand⟩ := overruns
  have lacking : lackOfTable n base = .fault .addOverflow := if_pos beyond
  have count := tableCount_of_lt beyond
  have fewer := c.lowSlots_le_slotsTouched
  -- Once low memory has its tables, it is the upper mapping that needs the table.
  have upper_demand (low : c.LowFits n base) : c.UpperFits ∧ tableRoom base < c.slotsTouched := by
    refine demand.resolve_left fun short => ?_
    have tables := low.low_tables small
    omega
  cases course with
  | misplaced off => exact absurd base_aligned off
  | lowOverflow _ long => exact absurd low_lt (Nat.not_lt.2 long)
  | lowTables => rw [lacking]
  | upperOverflow low long =>
    obtain ⟨upper, -⟩ := upper_demand low
    have first_eq := c.upperFirst_eq
    have stop_eq := c.upperStop_eq
    have stop_lt := upper.upper_stop_lt
    have image_le := upper.image_le
    omega
  | reversed reversed =>
    obtain ⟨upper, -⟩ := upper_demand reversed.low
    exact absurd upper.image_le (Nat.not_le.2 reversed.image_lt)
  | clash low _ unfit => exact absurd (upper_demand low).1 unfit
  | upperTables => rw [lacking]
  | done low _ tables =>
    obtain ⟨-, short⟩ := upper_demand low
    have enough := tables small
    omega

end BuildCourse

/-- **When a build faults.** Whatever was mapped before, a build faults in two ways and no other: on a
negative length, just if it comes to measure an image that ends before it starts, and on a sum that is
too large, just if it needs a table of the pool that starts at no address. -/
theorem build_fault_iff (base : PhysAddr) (c : PagingConfig) (t : AddressSpace n) (f : Fault) :
    (build base c t).1 = .error (.fault f) ↔
      f = .subOverflow ∧ c.Reversed n base ∨ f = .addOverflow ∧ c.Overruns n base := by
  have course := build_course base c t
  constructor
  · exact course.reason_of_fault
  · rintro (⟨rfl, reversed⟩ | ⟨rfl, overruns⟩)
    · exact course.eq_of_reversed reversed
    · exact course.eq_of_overruns overruns

/-- Of two tables behind a directory in the last page but one of memory, the second has no address. -/
theorem lowImage_overruns :
    (build ⟨0xFFFFE000⟩ (lowImage.withPages .kib4) (empty 2)).1 = .error (.fault .addOverflow) := by
  have touched : (lowImage.withPages .kib4).slotsTouched = 2 := by decide +kernel
  have upper : (lowImage.withPages .kib4).UpperFits := {
    upper_stop_lt := by decide
    image_le := by decide
    offset_whole := .inr (by decide)
    consistent := .inr fun a below => by
      have low : (lowImage.withPages .kib4).lowStop = 0x2000 := by decide
      have upper : (lowImage.withPages .kib4).upperFirst = 0xC0101000 := by decide
      omega }
  have overruns : (lowImage.withPages .kib4).Overruns 2 ⟨0xFFFFE000⟩ := {
    small := rfl
    base_aligned := by decide
    low_lt := by decide
    beyond := by decide
    demand := .inr ⟨upper, by rw [touched]; decide⟩ }
  exact (build_fault_iff _ _ _ _).2 (.inr ⟨rfl, overruns⟩)

/-- An image that ends before it starts. -/
def backwardImage : PagingConfig where
  identityBytes := 0x400000
  kernelStart := ⟨0x800000⟩
  kernelEnd := ⟨0x400000⟩
  virtOffset := 0xC0000000
  pageSize := .mib4

/-- It is not refused, but measured. -/
theorem backwardImage_faults :
    (build ⟨0x200000⟩ backwardImage (empty 0)).1 = .error (.fault .subOverflow) := by
  decide +kernel

end ProtectedBoot.Paging
