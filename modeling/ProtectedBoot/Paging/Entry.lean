import ProtectedBoot.Bits.Format
import ProtectedBoot.Page

/-!
# Paging entries

The paging unit reads words of three layouts. A directory entry either **links** a page table or,
with its page-size bit set, is itself the **leaf** of a 4 MiB page; an entry of a page table is the
leaf of a 4 KiB page. The layouts agree in their low six bits and differ above: bits 7, 8 and 12 to
21 mean something else in each.

`Flags` is what the layouts have in common as seen by the mapper; `Flags.link`, `Flags.largeLeaf`
and `Flags.smallLeaf` write it in each layout.
-/

namespace ProtectedBoot.Paging

/-! ## The layouts -/

namespace EntryBits

/-- The entry is in use. -/
def present : Flag 32 := { offset := 0 }

/-- Writes are allowed. -/
def writable : Flag 32 := { offset := 1 }

/-- User code has access. -/
def user : Flag 32 := { offset := 2 }

/-- Writes go through the cache. -/
def writeThrough : Flag 32 := { offset := 3 }

/-- The page is not cached. -/
def cacheDisable : Flag 32 := { offset := 4 }

/-- The processor used the entry. -/
def accessed : Flag 32 := { offset := 5 }

/-- The processor wrote to the page; leaves only. -/
def dirty : Flag 32 := { offset := 6 }

/-- The directory entry is a leaf. -/
def pageSize : Flag 32 := { offset := 7 }

/-- The page attribute bit of a small leaf. -/
def pat : Flag 32 := { offset := 7 }

/-- The translation survives a change of directory; leaves only. -/
def global : Flag 32 := { offset := 8 }

/-- Free for software. -/
def available : Field 32 3 := { offset := 9 }

/-- The page attribute bit of a large leaf. -/
def largePat : Flag 32 := { offset := 12 }

/-- The number of the 4 KiB page that a link or a small leaf names. -/
def smallFrame : Field 32 20 := { offset := 12 }

/-- The number of the 4 MiB page that a large leaf names. -/
def largeFrame : Field 32 10 := { offset := 22 }

/-- The parts that all layouts share. -/
def commonParts : List (Part 32) := [
  .flag "present" present,
  .flag "writable" writable,
  .flag "user" user,
  .flag "write_through" writeThrough,
  .flag "cache_disable" cacheDisable,
  .flag "accessed" accessed]

/-- The layout of a link. -/
def linkFormat : Format 32 where
  name := "Pde"
  initial := 0
  parts := commonParts ++ [
    .number "os_available" available,
    (Part.number "phys_addr_31_12" smallFrame).internal]

/-- The layout of a large leaf; its page-size bit is set from the start. -/
def largeLeafFormat : Format 32 where
  name := "Pde4M"
  initial := 128
  parts := commonParts ++ [
    .flag "dirty" dirty,
    (Part.flag "page_size" pageSize).internal,
    .flag "global" global,
    .number "os_available" available,
    .flag "pat_large" largePat,
    (Part.number "phys_addr_31_22" largeFrame).internal]

/-- The layout of a small leaf. -/
def smallLeafFormat : Format 32 where
  name := "Pte"
  initial := 0
  parts := commonParts ++ [
    .flag "dirty" dirty,
    .flag "pat" pat,
    .flag "global" global,
    .number "os_available" available,
    (Part.number "frame" smallFrame).internal]

end EntryBits

/-! ## Pages named by entries -/

/-- The 4 KiB page that a link or a small leaf names. -/
def smallPage (e : Word) : PhysPage .kib4 :=
  .containing ⟨(EntryBits.smallFrame.get e).setWidth 32 <<< 12⟩

/-- The 4 MiB page that a large leaf names. -/
def largePage (e : Word) : PhysPage .mib4 :=
  .containing ⟨(EntryBits.largeFrame.get e).setWidth 32 <<< 22⟩

/-- The link or small leaf `e`, naming another page. -/
def withSmallPage (e : Word) (p : PhysPage .kib4) : Word :=
  EntryBits.smallFrame.set e (p.number.setWidth 20)

/-- The large leaf `e`, naming another page; the page-size bit is set. -/
def withLargePage (e : Word) (p : PhysPage .mib4) : Word :=
  EntryBits.pageSize.assign (EntryBits.largeFrame.set e (p.number.setWidth 10)) true

/-! ## Flags -/

/-- The rights and caching of a mapping. -/
structure Flags where
  present : Bool
  writable : Bool
  user : Bool
  writeThrough : Bool
  cacheDisable : Bool
  global : Bool
deriving DecidableEq

namespace Flags

/-- No right at all. -/
def none : Flags := ⟨false, false, false, false, false, false⟩

/-- The kernel may read and write; the page is cached. -/
def kernel : Flags := ⟨true, true, false, false, false, false⟩

/-- The flags with user access granted or withheld. -/
def withUser (f : Flags) (user : Bool) : Flags := { f with user }

/-- The flags with writing allowed or forbidden. -/
def withWritable (f : Flags) (writable : Bool) : Flags := { f with writable }

/-- The outline of the flags. -/
def outline (f : Flags) : String :=
  Text.named "PageFlags" [
    ("present", Text.truth f.present),
    ("writable", Text.truth f.writable),
    ("user", Text.truth f.user),
    ("write_through", Text.truth f.writeThrough),
    ("cache_disable", Text.truth f.cacheDisable),
    ("global", Text.truth f.global)]

/-- Write the flags that all layouts share over the low bits of an entry. -/
def common (f : Flags) (e : Word) : Word :=
  let e := EntryBits.present.assign e f.present
  let e := EntryBits.writable.assign e f.writable
  let e := EntryBits.user.assign e f.user
  let e := EntryBits.writeThrough.assign e f.writeThrough
  EntryBits.cacheDisable.assign e f.cacheDisable

/-- The link to a page table; a link is never global. -/
def link (f : Flags) (p : PhysPage .kib4) : Word :=
  withSmallPage (f.common EntryBits.linkFormat.initial) p

/-- The leaf of a 4 MiB page. -/
def largeLeaf (f : Flags) (p : PhysPage .mib4) : Word :=
  let e := f.common EntryBits.largeLeafFormat.initial
  withLargePage (EntryBits.global.assign e f.global) p

/-- The leaf of a 4 KiB page. -/
def smallLeaf (f : Flags) (p : PhysPage .kib4) : Word :=
  let e := f.common EntryBits.smallLeafFormat.initial
  withSmallPage (EntryBits.global.assign e f.global) p

/-- The flags of a leaf of either size. -/
def ofLeaf (e : Word) : Flags where
  present := EntryBits.present.isSet e
  writable := EntryBits.writable.isSet e
  user := EntryBits.user.isSet e
  writeThrough := EntryBits.writeThrough.isSet e
  cacheDisable := EntryBits.cacheDisable.isSet e
  global := EntryBits.global.isSet e

end Flags

/-! ## Directory entries -/

/-- An entry of the page directory. -/
structure DirEntry where
  bits : Word
deriving DecidableEq

namespace DirEntry

/-- What an entry in use does. -/
inductive Kind where
  /-- It links the page table in a page. -/
  | link (table : PhysPage .kib4)
  /-- It maps a large page. -/
  | leaf (page : PhysPage .mib4)
deriving DecidableEq

/-- The entry of an empty slot. -/
def empty : DirEntry := ⟨0⟩

/-- Whether the entry is in use. -/
def isPresent (e : DirEntry) : Bool := EntryBits.present.isSet e.bits

/-- Whether the entry has the layout of a leaf, in use or not. -/
def isLeaf (e : DirEntry) : Bool := EntryBits.pageSize.isSet e.bits

/-- What the entry does, if it is in use. -/
def kind (e : DirEntry) : Option Kind :=
  if e.isPresent then
    some (if e.isLeaf then .leaf (largePage e.bits) else .link (smallPage e.bits))
  else none

@[simp] theorem kind_empty : empty.kind = none := by decide

/-- An entry in use as it is decoded: what it does, and the word that says so in the layout that goes
with it. -/
inductive Decoded where
  | link (table : PhysPage .kib4) (entry : Word)
  | leaf (page : PhysPage .mib4) (entry : Word)
deriving DecidableEq

/-- What the decoded entry does. -/
def Decoded.kind : Decoded → Kind
  | link p _ => .link p
  | leaf p _ => .leaf p

/-- The entry decoded, if it is in use. -/
def decode (e : DirEntry) : Option Decoded :=
  if e.isPresent then
    some (if e.isLeaf then .leaf (largePage e.bits) e.bits else .link (smallPage e.bits) e.bits)
  else none

/-- What an entry does is what the decoded entry does. -/
theorem kind_eq_map_decode (e : DirEntry) : e.kind = e.decode.map Decoded.kind := by
  rw [kind, decode]
  cases e.isPresent <;> cases e.isLeaf <;> rfl

/-- A link to the page table in `p`, in use whatever the flags say. -/
def ofTable (f : Flags) (p : PhysPage .kib4) : DirEntry :=
  ⟨EntryBits.present.assign (f.link p) true⟩

/-- The leaf of the page `p`, in use whatever the flags say. -/
def ofPage (f : Flags) (p : PhysPage .mib4) : DirEntry :=
  ⟨EntryBits.pageSize.assign (EntryBits.present.assign (f.largeLeaf p) true) true⟩

/-- The outline of what the entry does. -/
def outline (e : DirEntry) : String :=
  Text.optional <| e.kind.map fun
    | .link p => Text.applied "NextPageTable" [p.outline, EntryBits.linkFormat.outline e.bits]
    | .leaf p => Text.applied "Leaf4MiB" [p.outline, EntryBits.largeLeafFormat.outline e.bits]

end DirEntry

/-! ## Table entries -/

/-- An entry of a page table. -/
structure TableEntry where
  bits : Word
deriving DecidableEq

namespace TableEntry

/-- The entry of an empty slot. -/
def empty : TableEntry := ⟨0⟩

/-- Whether the entry is in use. -/
def isPresent (e : TableEntry) : Bool := EntryBits.present.isSet e.bits

/-- The page that the entry maps, if it is in use. -/
def page? (e : TableEntry) : Option (PhysPage .kib4) :=
  if e.isPresent then some (smallPage e.bits) else none

@[simp] theorem page?_empty : empty.page? = none := by decide

/-- The leaf of the page `p`, in use whatever the flags say. -/
def ofPage (f : Flags) (p : PhysPage .kib4) : TableEntry :=
  ⟨EntryBits.present.assign (f.smallLeaf p) true⟩

end TableEntry

end ProtectedBoot.Paging
