import ProtectedBoot.Paging.Build

/-!
# What the boot address space demands

The boot address space consists of two ranges of whole pages: low memory, mapped to itself, and the
kernel image, mapped further up. `PagingConfig` gives the numbers; here are the ranges they stand for,
over the naturals, and `Feasible`, the conditions under which a block with `n` page tables can hold
them.

A block may also lie so high that its pool has tables which start at no address. `Overruns` says when a
build comes to need one of those, and `Reversed` when it comes to measure an image that ends before it
starts.
-/

namespace ProtectedBoot.Paging

/-! ## Slots -/

/-- Whether a range of addresses, its end excluded, has an address in a slot of the directory. -/
def touches (first stop slot : Nat) : Bool :=
  decide (first < stop ∧ first < (slot + 1) * 0x400000 ∧ slot * 0x400000 < stop)

theorem touches_iff {first stop slot : Nat} :
    touches first stop slot = true ↔ ∃ a, first ≤ a ∧ a < stop ∧ a / 0x400000 = slot := by
  rw [touches, decide_eq_true_eq]
  constructor
  · rintro ⟨h, h₁, h₂⟩
    by_cases hle : first ≤ slot * 0x400000
    · exact ⟨slot * 0x400000, hle, h₂, by omega⟩
    · exact ⟨first, Nat.le_refl _, h, by omega⟩
  · rintro ⟨a, h₁, h₂, rfl⟩
    omega

/-! ## Tables -/

/-- The number of tables behind a directory at `base` that start at an address. -/
def tableRoom (base : PhysAddr) : Nat := (0xFFFFFFFF - base.toNat) / 4096

/-- The number of tables that a pool of `n` tables behind a directory at `base` has to give. -/
def tableCount (n : Nat) (base : PhysAddr) : Nat := min n (tableRoom base)

/-- What a request for one table more comes to: a refusal, or a fault if the pool has a table left that
starts at no address. -/
def lackOfTable (n : Nat) (base : PhysAddr) : Stop PagingError :=
  if tableRoom base < n then .fault .addOverflow else .refused (.outOfTables n)

namespace PagingConfig

/-- The same ranges, mapped with pages of a given size. -/
def withPages (c : PagingConfig) (z : PageSize) : PagingConfig := { c with pageSize := z }

/-! ## Ranges -/

/-- The bytes in a page of the configuration. -/
def pageBytes (c : PagingConfig) : Nat := c.pageSize.bytes.toNat

/-- Where low memory ends. -/
def lowStop (c : PagingConfig) : Nat :=
  (c.identityBytes.toNat + (c.pageBytes - 1)) / c.pageBytes * c.pageBytes

/-- Where the first page of the image starts. -/
def imageFirst (c : PagingConfig) : Nat := c.kernelStart.toNat / c.pageBytes * c.pageBytes

/-- Where the last page of the image ends. -/
def imageStop (c : PagingConfig) : Nat :=
  (c.kernelEnd.toNat + (c.pageBytes - 1)) / c.pageBytes * c.pageBytes

/-- Where the upper mapping of the image starts. -/
def upperFirst (c : PagingConfig) : Nat := c.imageFirst + c.virtOffset.toNat

/-- Where the upper mapping of the image ends. -/
def upperStop (c : PagingConfig) : Nat := c.imageStop + c.virtOffset.toNat

theorem upperFirst_eq (c : PagingConfig) : c.upperFirst = c.imageFirst + c.virtOffset.toNat := rfl

theorem upperStop_eq (c : PagingConfig) : c.upperStop = c.imageStop + c.virtOffset.toNat := rfl

/-- The number of directory slots that the two ranges have addresses in. -/
def slotsTouched (c : PagingConfig) : Nat :=
  (List.range 1024).countP fun s => touches 0 c.lowStop s || touches c.upperFirst c.upperStop s

/-- The number of directory slots that low memory has addresses in. -/
def lowSlots (c : PagingConfig) : Nat := (List.range 1024).countP (touches 0 c.lowStop)

/-! ## Feasibility -/

/-- A block at `base` with `n` page tables can hold the boot address space. -/
structure Feasible (c : PagingConfig) (n : Nat) (base : PhysAddr) : Prop where
  base_aligned : 4096 ∣ base.toNat
  /-- Low memory ends at an address. -/
  low_lt : c.lowStop < 0x100000000
  /-- The image ends at an address. -/
  image_lt : c.imageStop < 0x100000000
  /-- The upper mapping starts at an address. -/
  upper_first_lt : c.upperFirst < 0x100000000
  /-- The upper mapping ends at an address. -/
  upper_stop_lt : c.upperStop < 0x100000000
  /-- Pages of the image are pages of the upper mapping, if there are any. -/
  offset_whole : c.imageFirst = c.imageStop ∨ c.pageBytes ∣ c.virtOffset.toNat
  /-- No address is wanted in two places. -/
  consistent : c.virtOffset = 0 ∨
    ∀ a, a < c.lowStop → ¬ (c.upperFirst ≤ a ∧ a < c.upperStop)
  /-- There is a page table for each slot; large pages need none. -/
  pool : c.pageSize = .kib4 → c.slotsTouched ≤ n

/-! ## Faults -/

/-- A block at `base` with `n` page tables can hold low memory. -/
structure LowFits (c : PagingConfig) (n : Nat) (base : PhysAddr) : Prop where
  base_aligned : 4096 ∣ base.toNat
  low_lt : c.lowStop < 0x100000000
  low_tables : c.pageSize = .kib4 → c.lowSlots ≤ tableCount n base

/-- The upper mapping goes together with low memory, if there are tables for it. -/
structure UpperFits (c : PagingConfig) : Prop where
  upper_stop_lt : c.upperStop < 0x100000000
  image_le : c.imageFirst ≤ c.imageStop
  offset_whole : c.imageFirst = c.imageStop ∨ c.pageBytes ∣ c.virtOffset.toNat
  consistent : c.virtOffset = 0 ∨
    ∀ a, a < c.lowStop → ¬ (c.upperFirst ≤ a ∧ a < c.upperStop)

/-- A build needs a table that the pool has, but that starts at no address. -/
structure Overruns (c : PagingConfig) (n : Nat) (base : PhysAddr) : Prop where
  small : c.pageSize = .kib4
  base_aligned : 4096 ∣ base.toNat
  low_lt : c.lowStop < 0x100000000
  beyond : tableRoom base < n
  /-- Low memory needs the table, or the two ranges do. -/
  demand : tableRoom base < c.lowSlots ∨ c.UpperFits ∧ tableRoom base < c.slotsTouched

/-- A build comes to measure an image that ends before it starts. -/
structure Reversed (c : PagingConfig) (n : Nat) (base : PhysAddr) : Prop where
  low : c.LowFits n base
  upper_first_lt : c.upperFirst < 0x100000000
  image_lt : c.imageStop < c.imageFirst

end PagingConfig

end ProtectedBoot.Paging
