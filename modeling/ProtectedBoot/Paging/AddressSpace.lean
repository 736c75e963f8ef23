import ProtectedBoot.Attempt
import ProtectedBoot.Paging.Error
import ProtectedBoot.Paging.Table

/-!
# Address spaces

An address space is a page directory with a pool of `n` page tables behind it, all in one block of
memory: the directory at `base`, table `i` at `base + 4096 * (i + 1)`. Tables are taken from the pool
in order, one for each directory slot that needs one, and are given back only by `reset`.

Mapping a page never replaces a mapping: a page that is mapped to the same frame stays as it is, and
one that is mapped to another frame is refused. Directory links grant every right to write, and user
access as the first page of their slot asks for it; the leaf decides about the rest.
-/

namespace ProtectedBoot.Paging

/-- A page directory with a pool of `n` page tables. -/
structure AddressSpace (n : Nat) where
  directory : Directory
  tables : Vector PageTable n
  /-- The number of tables taken from the pool. -/
  used : Nat
  used_le : used ≤ n
  /-- The physical address of the directory. -/
  base : PhysAddr

/-- A change of an address space that may be refused. -/
abbrev Edit (n : Nat) (α : Type) := Attempt (AddressSpace n) PagingError α

namespace AddressSpace

variable {n : Nat}

/-- The address space without a mapping, at address zero. -/
def empty (n : Nat) : AddressSpace n where
  directory := .empty
  tables := Vector.replicate n .empty
  used := 0
  used_le := Nat.zero_le n
  base := .zero

/-! ## Entries -/

/-- The directory entry in a slot. -/
def dirEntry (t : AddressSpace n) (s : Slot) : DirEntry := t.directory[s]

/-- The entry in a slot of a table. -/
def tableEntry (t : AddressSpace n) (i : Fin n) (s : Slot) : TableEntry := t.tables[i][s]

/-- Store a directory entry. -/
def setDirEntry (t : AddressSpace n) (s : Slot) (e : DirEntry) : AddressSpace n :=
  { t with directory := t.directory.set s.1 e s.2 }

/-- Store an entry of a table. -/
def setTableEntry (t : AddressSpace n) (i : Fin n) (s : Slot) (e : TableEntry) : AddressSpace n :=
  { t with tables := t.tables.set i.1 (t.tables[i].set s.1 e s.2) i.2 }

/-! ## The pool -/

/-- The physical address of table `i`; a fault if it lies past the end of memory. -/
def tableAddress (t : AddressSpace n) (i : Nat) : Except Fault PhysAddr := do
  let first ← checkedAdd t.base.bits 4096
  let distance ← checkedMul (BitVec.ofNat 32 i) 4096
  let address ← checkedAdd first distance
  return ⟨address⟩

/-- The table of the pool that lies in a page, among those that were taken. -/
def tableIn (t : AddressSpace n) (p : PhysPage .kib4) : Except Fault (Option (Fin n)) := do
  let first ← t.tableAddress 0
  match sub? p.base.bits first.bits with
  | none => return none
  | some distance =>
    let i := distance.toNat / 4096
    if h : i < t.used then return some ⟨i, Nat.lt_of_lt_of_le h t.used_le⟩ else return none

/-- Take a table from the pool and link it into a directory slot. -/
def takeTable (s : Slot) (user : Bool) : Edit n (Fin n) := fun t =>
  if h : t.used < n then
    let taken := { t with used := t.used + 1, used_le := h }
    match t.tableAddress t.used with
    | .error f => (.error (.fault f), taken)
    | .ok a =>
      (.ok ⟨t.used, h⟩,
        taken.setDirEntry s (.ofTable (Flags.kernel.withUser user) (.containing a)))
  else (.error (.refused (.outOfTables n)), t)

/-! ## Mapping -/

/-- Refuse an address at which no page of size `z` starts. -/
def requireAligned {s : Space} (z : PageSize) (a : Address s) : Edit n Unit := fun t =>
  if a.isAligned z then (.ok (), t) else (.error (.refused (.misaligned a.bits z.bytes)), t)

/-- Forget all mappings and move the block to `base`. -/
def reset (base : PhysAddr) : Edit n Unit := do
  requireAligned .kib4 base
  Attempt.update fun _ => { empty n with base }

/-- The table that serves an address: the one linked in its slot, or else a new one. -/
def tableFor (va : VirtAddr) (user : Bool) : Edit n (Fin n) := fun t =>
  match (t.dirEntry (.inDirectory va)).kind with
  | some (.leaf _) => (.error (.refused (.conflictingLargePage va)), t)
  | some (.link p) =>
    match t.tableIn p with
    | .error f => (.error (.fault f), t)
    | .ok none => (.error (.refused (.foreignTable va)), t)
    | .ok (some i) => (.ok i, t)
  | none => takeTable (.inDirectory va) user t

/-- Enter a page into table `i`. -/
def enterPage (i : Fin n) (va : VirtAddr) (page : PhysPage .kib4) (f : Flags) : Edit n Unit :=
  fun t =>
    match (t.tableEntry i (.inTable va)).page? with
    | some current =>
      if current = page then (.ok (), t)
      else (.error (.refused (.alreadyMapped va current.base)), t)
    | none => (.ok (), t.setTableEntry i (.inTable va) (.ofPage f page))

/-- Map one 4 KiB page. -/
def mapSmall (va : VirtAddr) (pa : PhysAddr) (f : Flags) : Edit n Unit := do
  requireAligned .kib4 va
  requireAligned .kib4 pa
  let i ← tableFor va f.user
  enterPage i va (.containing pa) f

/-- Enter a page into the directory. -/
def enterLargePage (va : VirtAddr) (page : PhysPage .mib4) (f : Flags) : Edit n Unit := fun t =>
  match (t.dirEntry (.inDirectory va)).kind with
  | some (.leaf current) =>
    if current = page then (.ok (), t)
    else (.error (.refused (.alreadyMapped va current.base)), t)
  | some (.link _) => (.error (.refused (.conflictingLargePage va)), t)
  | none => (.ok (), t.setDirEntry (.inDirectory va) (.ofPage f page))

/-- Map one 4 MiB page. -/
def mapLarge (va : VirtAddr) (pa : PhysAddr) (f : Flags) : Edit n Unit := do
  requireAligned .mib4 va
  requireAligned .mib4 pa
  enterLargePage va (.containing pa) f

/-- Map one page of either size. -/
def mapPage (z : PageSize) (va : VirtAddr) (pa : PhysAddr) (f : Flags) : Edit n Unit :=
  match z with
  | .kib4 => mapSmall va pa f
  | .mib4 => mapLarge va pa f

/-- Map the pages of a range that lie `offset` bytes from its start or further up, after `pages` pages
of it; the answer is how many are mapped in the end. There are no more pages where the offset reaches
the length, nor where the next one would not fit in a word. -/
def mapFrom (z : PageSize) (va : VirtAddr) (pa : PhysAddr) (len : Word) (f : Flags)
    (offset pages : Word) : Edit n Nat :=
  if offset < len then do
    let v ← Attempt.ofFaulting (va.add offset)
    let p ← Attempt.ofFaulting (pa.add offset)
    mapPage z v p f
    let pages ← Attempt.ofFaulting (checkedAdd pages 1)
    match _ : ProtectedBoot.add? offset z.bytes with
    | some next => mapFrom z va pa len f next pages
    | none => return pages.toNat
  else return pages.toNat
termination_by 0x100000000 - offset.toNat
decreasing_by
  -- A step that does not overflow leads further up, and offsets end with the space.
  have next_at := ProtectedBoot.add?_eq_some_iff.1 ‹ProtectedBoot.add? offset z.bytes = some _›
  have page_pos := z.bytes_pos
  omega

/-- Whether the last byte of `len` bytes from `a` lies in the address space. -/
def fits {s : Space} (a : Address s) (len : Word) : Bool :=
  len == 0 || (a.add? (len - 1)).isSome

/-- Map `len` bytes from `va` on to as many from `pa` on, page by page from the start; the answer is
the number of pages. A range may end exactly at the end of the address space. -/
def mapRange (z : PageSize) (va : VirtAddr) (pa : PhysAddr) (len : Word) (f : Flags) :
    Edit n Nat :=
  if !isAligned len z.bytes then Attempt.refuse (.misaligned len z.bytes)
  else if !(fits va len && fits pa len) then Attempt.refuse .addressOverflow
  else mapFrom z va pa len f 0 0

/-! ## Translation -/

/-- The physical address of a virtual one, if it is mapped. -/
def translate (t : AddressSpace n) (va : VirtAddr) : Except Fault (Option PhysAddr) :=
  match (t.dirEntry (.inDirectory va)).kind with
  | none => .ok none
  | some (.leaf p) => .ok (some (p.locate va))
  | some (.link p) =>
    match t.tableIn p with
    | .error f => .error f
    | .ok none => .ok none
    | .ok (some i) => .ok ((t.tableEntry i (.inTable va)).page?.map fun q => q.locate va)

/-- Whether an address stays where it is when paging is turned on. -/
def identityMaps (t : AddressSpace n) (a : PhysAddr) : Except Fault Bool := do
  return (← t.translate (a.recast .virtual)) == some a

theorem identityMaps_eq_true_iff {t : AddressSpace n} {a : PhysAddr} :
    t.identityMaps a = .ok true ↔ t.translate (a.recast .virtual) = .ok (some a) := by
  rw [identityMaps]
  rcases t.translate (a.recast .virtual) with f | found
  · simp [bind, Except.bind]
  · simp [bind, Except.bind, pure, Except.pure]

end AddressSpace

end ProtectedBoot.Paging
