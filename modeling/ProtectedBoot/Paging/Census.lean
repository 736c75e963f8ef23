import Mathlib.Data.Fintype.Prod
import Mathlib.Order.Interval.Finset.Nat
import ProtectedBoot.Paging.Demand
import ProtectedBoot.Paging.View

/-!
# What is installed in an address space

A build counts pages while it maps them. What it installed can be counted afterwards, in the directory
and in the tables of the pool, as the sizes of four sets of entries; `PagingSummary.Counts` says that a
summary has these numbers.

The two ranges of the boot address space are sets of pages too. They are numbered here from the start of
the address space on, in pages of the size that the ranges are mapped with.
-/

namespace ProtectedBoot.Paging

/-! ## Entries -/

namespace AddressSpace

variable {n : Nat}

/-- The slots of the directory that are in use. -/
def presentSlots (t : AddressSpace n) : Finset Slot :=
  Finset.univ.filter fun s => (t.dirEntry s).isPresent = true

/-- The slots of the directory that have a table. -/
def linkingSlots (t : AddressSpace n) : Finset Slot :=
  Finset.univ.filter fun s => t.pagesAt s = some .kib4

/-- The slots of the directory that map a large page. -/
def largeLeaves (t : AddressSpace n) : Finset Slot :=
  Finset.univ.filter fun s => t.pagesAt s = some .mib4

/-- The entries that are in use, of all tables of the pool. -/
def smallLeaves (t : AddressSpace n) : Finset (Fin n × Slot) :=
  Finset.univ.filter fun e => (t.tableEntry e.1 e.2).isPresent = true

/-- The number of pages of a size that are installed. -/
def leafCount (t : AddressSpace n) : PageSize → Nat
  | .kib4 => t.smallLeaves.card
  | .mib4 => t.largeLeaves.card

end AddressSpace

/-! ## Summaries -/

namespace PagingSummary

/-- The number of pages of a size, according to the summary. -/
def pages (s : PagingSummary) : PageSize → Nat
  | .kib4 => s.smallPages
  | .mib4 => s.largePages

/-- The summary has the numbers of what is installed. -/
structure Counts {n : Nat} (s : PagingSummary) (t : AddressSpace n) : Prop where
  directoryEntries : s.directoryEntries = t.presentSlots.card
  tablesUsed : s.tablesUsed = t.linkingSlots.card
  pages : ∀ z, s.pages z = t.leafCount z

end PagingSummary

/-! ## Ranges -/

namespace PagingConfig

/-- The pages of low memory. -/
def lowPages (c : PagingConfig) : Finset Nat := Finset.range (c.lowStop / c.pageBytes)

/-- The pages of the upper mapping. -/
def upperPages (c : PagingConfig) : Finset Nat :=
  Finset.Ico (c.upperFirst / c.pageBytes) (c.upperStop / c.pageBytes)

/-- The pages that belong to both ranges. -/
def sharedPages (c : PagingConfig) : Finset Nat := c.lowPages ∩ c.upperPages

end PagingConfig

end ProtectedBoot.Paging
