import ProtectedBoot.Address

/-!
# Errors of the mapper

Why a mapping request is refused. Each cause carries the address or number that the report names.
-/

namespace ProtectedBoot.Paging

/-- Why a mapping request is refused. -/
inductive PagingError where
  /-- An address or length is not a multiple of the page size. -/
  | misaligned (value align : Word)
  /-- The pool has no page table left. -/
  | outOfTables (capacity : Nat)
  /-- The page is mapped to another frame. -/
  | alreadyMapped (va : VirtAddr) (existing : PhysAddr)
  /-- A large page and a page table would share a directory slot. -/
  | conflictingLargePage (va : VirtAddr)
  /-- The directory links a table that is not of the pool. -/
  | foreignTable (va : VirtAddr)
  /-- The range leaves the address space. -/
  | addressOverflow
deriving DecidableEq

namespace PagingError

/-- The name of the cause. -/
def kind : PagingError → String
  | misaligned .. => "Misaligned"
  | outOfTables .. => "OutOfTables"
  | alreadyMapped .. => "AlreadyMapped"
  | conflictingLargePage .. => "ConflictingLargePage"
  | foreignTable .. => "ForeignTable"
  | addressOverflow => "AddressOverflow"

/-- The sentence that reports the error. -/
def message : PagingError → String
  | misaligned value align =>
    s!"address {Text.hexWide 8 value.toNat} is not aligned to {Text.hex align.toNat}"
  | outOfTables capacity => s!"all {capacity} boot page tables are in use"
  | alreadyMapped va existing => s!"{va.text} is already mapped to {existing.text}"
  | conflictingLargePage va =>
    s!"{va.text} is covered by a 4 MiB page and a page table at the same time"
  | foreignTable va => s!"directory entry for {va.text} points outside the boot table pool"
  | addressOverflow => "mapping wraps around the 32-bit address space"

/-- The outline of the error. -/
def outline (e : PagingError) : String :=
  match e with
  | misaligned value align =>
    Text.named e.kind [("addr", toString value.toNat), ("align", toString align.toNat)]
  | outOfTables capacity => Text.named e.kind [("capacity", toString capacity)]
  | alreadyMapped va existing =>
    Text.named e.kind [("va", va.outline), ("existing", existing.outline)]
  | conflictingLargePage va | foreignTable va => Text.applied e.kind [va.outline]
  | addressOverflow => e.kind

end PagingError

end ProtectedBoot.Paging
