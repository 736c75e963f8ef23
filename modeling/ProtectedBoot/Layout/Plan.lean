import ProtectedBoot.Layout.Error

/-!
# Layout plans

A plan places the seven sections. `LayoutPlan.plan` places them from their sizes, each at the first
suitable address behind its predecessor; `LayoutPlan.validate` checks any placement against the
contract, whether it was planned or read back from a linked image.

The contract says: the image starts on a page at or above 1 MiB; the sections come in order, aligned
and without overlap; each of them and its upper mapping lies in the address space; the boot loader
finds its header; the processor can be told of the descriptor table; and the whole image lies in the
memory that is mapped to itself.
-/

namespace ProtectedBoot.Layout

/-- The bytes of the boot loader's header. -/
def headerBytes : Word := 12

/-- The largest descriptor table that the processor can be told of. -/
def maxTableBytes : Word := 0x10000

/-- The largest sizes that the sections are planned with. -/
def sectionBudget : Vector Word 7 :=
  #v[headerBytes, Platform.stackBytes + Platform.pageBytes, 5 * 8, 512 * 1024, 128 * 1024,
    64 * 1024, 128 * 1024]

/-- Where the image is loaded and mapped. -/
structure LayoutConfig where
  loadBase : PhysAddr
  virtOffset : Word
  /-- The end of the memory that is mapped to itself. -/
  identityLimit : PhysAddr
deriving DecidableEq

/-- The configuration of the platform. -/
def LayoutConfig.platform : LayoutConfig where
  loadBase := ⟨Platform.loadBase⟩
  virtOffset := Platform.virtOffset
  identityLimit := ⟨Platform.identityBytes⟩

/-- The addresses that the rest of the kernel learns about its image. -/
structure Markers where
  physStart : PhysAddr
  /-- The end of the image, a whole number of pages. -/
  physEnd : PhysAddr
  virtStart : VirtAddr
  virtEnd : VirtAddr
  bssStart : PhysAddr
  bssEnd : PhysAddr
deriving DecidableEq

/-- The size of the image; a fault if it ends before it starts. -/
def Markers.imageSize (m : Markers) : Except Fault Word :=
  checkedSub m.physEnd.bits m.physStart.bits

/-- A placement of the seven sections. -/
structure LayoutPlan where
  config : LayoutConfig
  sections : Vector PlacedSection 7

namespace LayoutPlan

/-- The section in the position of a kind. -/
def sectionAt (p : LayoutPlan) (k : SectionKind) : PlacedSection := p.sections.get k.index

/-- The addresses that the placement gives the image. The end of an image that cannot be rounded up
to a page counts as the last address. -/
def markers (p : LayoutPlan) : Markers :=
  let bss := p.sectionAt .bss
  let bssEnd := bss.end?.getD bss.start
  let physEnd := (alignUp? bssEnd.bits Platform.pageBytes).getD (BitVec.allOnes 32)
  { physStart := p.config.loadBase
    physEnd := ⟨physEnd⟩
    virtStart := ⟨p.config.loadBase.bits + p.config.virtOffset⟩
    virtEnd := ⟨physEnd + p.config.virtOffset⟩
    bssStart := bss.start
    bssEnd }

/-! ## The contract -/

/-- Check where the image starts. -/
def checkBase (base : PhysAddr) : Except LayoutError Unit :=
  if base.toNat < Platform.legacyEnd.toNat then .error (.loadBaseInLegacyArea base)
  else if !isAligned base.bits Platform.pageBytes then .error (.unalignedLoadBase base)
  else .ok ()

/-- Check that every section, from position `index` on, has the expected kind. -/
def checkOrder (index : Nat) : List PlacedSection → List SectionKind → Except LayoutError Unit
  | s :: rest, k :: kinds =>
    if s.kind = k then checkOrder (index + 1) rest kinds
    else .error (.outOfOrder index k.name s.kind.name)
  | _, _ => .ok ()

/-- Check the sizes that someone outside the kernel relies on. -/
def checkSizes (header table : PlacedSection) : Except LayoutError Unit :=
  if header.size.toNat < headerBytes.toNat then .error (.headerMissing header.size)
  else if table.size = 0 ∨ maxTableBytes.toNat < table.size.toNat ∨ table.size.toNat % 8 ≠ 0 then
    .error (.descriptorTableSize table.size)
  else .ok ()

/-- Check one section behind `previousEnd`; the answer is where it ends. -/
def checkSection (virtOffset : Word) (previousEnd : PhysAddr) (s : PlacedSection) :
    Except LayoutError PhysAddr :=
  if !isAligned s.start.bits s.kind.alignment then
    .error (.misaligned s.kind.name s.start s.kind.alignment)
  else if s.start.toNat < previousEnd.toNat then .error (.overlap s.kind.name s.start previousEnd)
  else match s.end? with
    | none => .error (.addressOverflow s.kind.name)
    | some e =>
      if (add? e.bits virtOffset).isNone then .error (.addressOverflow s.kind.name) else .ok e

/-- Check the sections in turn, each behind the one before it. -/
def checkPlacement (virtOffset : Word) (previousEnd : PhysAddr) :
    List PlacedSection → Except LayoutError Unit
  | [] => .ok ()
  | s :: rest => do
    let e ← checkSection virtOffset previousEnd s
    checkPlacement virtOffset e rest

/-- Where the header ends, counted from the start of the image. -/
def headerEnd (base : PhysAddr) (header : PlacedSection) : Except Fault Word := do
  let e ← checkedAdd header.start.bits headerBytes
  checkedSub e base.bits

/-- Check that the boot loader finds the header. -/
def checkReach (base : PhysAddr) (header : PlacedSection) : Except (Stop LayoutError) Unit :=
  match headerEnd base header with
  | .error f => .error (.fault f)
  | .ok e =>
    if Platform.searchWindow.toNat < e.toNat then
      .error (.refused (.headerOutOfReach e Platform.searchWindow))
    else .ok ()

/-- Check that the image lies in the memory that is mapped to itself. -/
def checkImageEnd (imageEnd limit : PhysAddr) : Except LayoutError Unit :=
  if limit.toNat < imageEnd.toNat then .error (.notIdentityMapped imageEnd limit) else .ok ()

/-- Check a placement against the contract. The answer is the first violation: of the start, the
order, the sizes, the placement, the header's reach, the end. -/
def validate (p : LayoutPlan) : Except (Stop LayoutError) Unit := do
  let base := p.config.loadBase
  (checkBase base).mapError .refused
  (checkOrder 0 p.sections.toList SectionKind.all.toList).mapError .refused
  (checkSizes (p.sectionAt .header) (p.sectionAt .descriptorTable)).mapError .refused
  (checkPlacement p.config.virtOffset base p.sections.toList).mapError .refused
  checkReach base (p.sectionAt .header)
  (checkImageEnd p.markers.physEnd p.config.identityLimit).mapError .refused

/-! ## Planning -/

/-- Place sections one behind the other, from `cursor` on. -/
def place (cursor : Word) : List (SectionKind × Word) → Except LayoutError (List PlacedSection)
  | [] => .ok []
  | (k, size) :: rest =>
    match alignUp? cursor k.alignment with
    | none => .error (.addressOverflow k.name)
    | some start => match add? start size with
      | none => .error (.addressOverflow k.name)
      | some next => (place next rest).map (⟨k, ⟨start⟩, size⟩ :: ·)

theorem length_of_place {l : List (SectionKind × Word)} {cursor : Word} {r : List PlacedSection}
    (h : place cursor l = .ok r) : r.length = l.length := by
  induction l generalizing cursor r with
  | nil => cases h; rfl
  | cons x rest ih =>
    rw [place] at h
    split at h
    · cases h
    · split at h
      · cases h
      · rename_i next _
        cases hr : place next rest with
        | error e => rw [hr] at h; cases h
        | ok t =>
          rw [hr] at h
          cases h
          exact congrArg (· + 1) (ih hr)

/-- The sections with the sizes they shall have. -/
def requests (sizes : Vector Word 7) : List (SectionKind × Word) :=
  (SectionKind.all.zip sizes).toList

/-- Place sections of the given sizes and check the result. -/
def plan (config : LayoutConfig) (sizes : Vector Word 7) : Except (Stop LayoutError) LayoutPlan :=
  match h : place config.loadBase.bits (requests sizes) with
  | .error e => .error (.refused e)
  | .ok placed =>
    let p : LayoutPlan := ⟨config, ⟨placed.toArray, by
      rw [List.size_toArray, length_of_place h, requests, Vector.length_toList]⟩⟩
    p.validate.map fun _ => p

end LayoutPlan

end ProtectedBoot.Layout
