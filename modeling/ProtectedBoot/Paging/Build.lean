import ProtectedBoot.Log
import ProtectedBoot.Paging.AddressSpace

/-!
# The boot address space

Before paging is turned on, the boot code maps two ranges: low memory to itself, so that the running
code stays where it is, and the kernel image to its place in the upper part of the address space.
-/

namespace ProtectedBoot.Paging

/-- What the boot address space has to map. -/
structure PagingConfig where
  /-- The addresses below this one are mapped to themselves. -/
  identityBytes : Word
  /-- The start of the kernel image. -/
  kernelStart : PhysAddr
  /-- The end of the kernel image. -/
  kernelEnd : PhysAddr
  /-- The distance from the image to its upper mapping. -/
  virtOffset : Word
  pageSize : PageSize
deriving DecidableEq

namespace PagingConfig

/-- The end of the identity mapping, a whole number of pages. -/
def identityEnd (c : PagingConfig) : Except PagingError Word :=
  match alignUp? c.identityBytes c.pageSize.bytes with
  | some e => .ok e
  | none => .error .addressOverflow

/-- The first page of the kernel image. -/
def imageStart (c : PagingConfig) : PhysAddr := c.kernelStart.alignDown c.pageSize

/-- The range of the upper mapping, a whole number of pages. -/
def virtRange (c : PagingConfig) : Except PagingError (VirtAddr × VirtAddr) :=
  match alignUp? c.kernelEnd.bits c.pageSize.bytes with
  | none => .error .addressOverflow
  | some e =>
    match add? c.imageStart.bits c.virtOffset, add? e c.virtOffset with
    | some vs, some ve => .ok (⟨vs⟩, ⟨ve⟩)
    | _, _ => .error .addressOverflow

end PagingConfig

/-- How much a build installed. -/
structure PagingSummary where
  directoryEntries : Nat
  tablesUsed : Nat
  smallPages : Nat
  largePages : Nat
deriving DecidableEq

/-- The summary of a build that installed `pages` pages of one size. -/
def PagingSummary.of {n : Nat} (t : AddressSpace n) (z : PageSize) (pages : Nat) : PagingSummary where
  directoryEntries := t.directory.presentCount
  tablesUsed := t.used
  smallPages := match z with
    | .kib4 => pages
    | .mib4 => 0
  largePages := match z with
    | .kib4 => 0
    | .mib4 => pages

/-- The record that reports a build. -/
def buildRecord {n : Nat} (t : AddressSpace n) (identity : Word) (virt : VirtAddr × VirtAddr)
    (phys : PhysAddr) : Log.Record where
  level := .debug
  target := Log.pageTables
  message :=
    "paging: identity [0, " ++ Text.hex identity.toNat ++ "), alias " ++ virt.1.text ++ ".." ++
      virt.2.text ++ " -> " ++ phys.text ++ ", " ++ toString t.used ++ " tables, directory at " ++
      t.base.text

/-- Build the boot address space in a block at `base`. -/
def build {n : Nat} (base : PhysAddr) (c : PagingConfig) :
    Edit n (PagingSummary × Log.Record) := do
  AddressSpace.reset base
  let identity ← Attempt.ofRefusable c.identityEnd
  let low ← AddressSpace.mapRange c.pageSize .zero .zero identity .kernel
  let virt ← Attempt.ofRefusable c.virtRange
  let len ← Attempt.ofFaulting (checkedSub virt.2.bits virt.1.bits)
  let high ← AddressSpace.mapRange c.pageSize virt.1 c.imageStart len .kernel
  let t ← Attempt.state
  return (.of t c.pageSize (low + high), buildRecord t identity virt c.imageStart)

end ProtectedBoot.Paging
