import ProtectedBoot.Layout.Section
import ProtectedBoot.Text.Quoted

/-!
# Violations of the layout contract

What is wrong with a placement of the sections. Each cause carries what its report names, and a
section is reported by its name.
-/

namespace ProtectedBoot.Layout

/-- A violation of the layout contract. -/
inductive LayoutError where
  /-- The image would overwrite the firmware's area. -/
  | loadBaseInLegacyArea (base : PhysAddr)
  /-- The image does not start a page. -/
  | unalignedLoadBase (base : PhysAddr)
  /-- A section is not where its kind belongs. -/
  | outOfOrder (index : Nat) (expected found : String)
  /-- A section does not start at a multiple of its alignment. -/
  | misaligned (name : String) (start : PhysAddr) (align : Word)
  /-- A section starts before its predecessor ends. -/
  | overlap (name : String) (start previousEnd : PhysAddr)
  /-- A section, or its upper mapping, leaves the address space. -/
  | addressOverflow (name : String)
  /-- The first section is too small for the boot loader's header. -/
  | headerMissing (size : Word)
  /-- The boot loader would not find the header. -/
  | headerOutOfReach (headerEnd limit : Word)
  /-- The descriptor table cannot be described to the processor. -/
  | descriptorTableSize (size : Word)
  /-- The image does not fit the memory that is mapped to itself. -/
  | notIdentityMapped (imageEnd limit : PhysAddr)
deriving DecidableEq

namespace LayoutError

/-- The name of the cause. -/
def kind : LayoutError → String
  | loadBaseInLegacyArea .. => "LoadBaseInLegacyArea"
  | unalignedLoadBase .. => "UnalignedLoadBase"
  | outOfOrder .. => "OutOfOrder"
  | misaligned .. => "Misaligned"
  | overlap .. => "Overlap"
  | addressOverflow .. => "AddressOverflow"
  | headerMissing .. => "HeaderMissing"
  | headerOutOfReach .. => "HeaderOutOfReach"
  | descriptorTableSize .. => "DescriptorTableSize"
  | notIdentityMapped .. => "NotIdentityMapped"

/-- The sentence that reports the violation. -/
def message : LayoutError → String
  | loadBaseInLegacyArea base => s!"load base {base.text} lies in the legacy area below 1 MiB"
  | unalignedLoadBase base => s!"load base {base.text} is not page aligned"
  | outOfOrder index expected found =>
    s!"section {found} found at position {index}, expected {expected}"
  | misaligned name start align =>
    s!"section {name} starts at {start.text}, not aligned to {Text.hex align.toNat}"
  | overlap name start previousEnd =>
    s!"section {name} at {start.text} overlaps the previous section ending at " ++
      previousEnd.text
  | addressOverflow name => s!"section {name} does not fit into the 32-bit address space"
  | headerMissing size => s!"multiboot header section holds {size.toNat} bytes, need 12"
  | headerOutOfReach headerEnd limit =>
    s!"multiboot header ends {Text.hex headerEnd.toNat} bytes into the image, past the " ++
      s!"{Text.hex limit.toNat}-byte search window"
  | descriptorTableSize size =>
    s!"descriptor table of {size.toNat} bytes is empty, oversized or not a multiple of 8"
  | notIdentityMapped imageEnd limit =>
    s!"image end {imageEnd.text} exceeds the identity-mapped window ending at {limit.text}"

/-- The outline of the violation. -/
def outline (e : LayoutError) : String :=
  match e with
  | loadBaseInLegacyArea base | unalignedLoadBase base => Text.applied e.kind [base.outline]
  | outOfOrder index expected found =>
    Text.named e.kind [
      ("index", toString index),
      ("expected", Text.quoted expected),
      ("found", Text.quoted found)]
  | misaligned name start align =>
    Text.named e.kind [
      ("section", Text.quoted name),
      ("start", start.outline),
      ("align", toString align.toNat)]
  | overlap name start previousEnd =>
    Text.named e.kind [
      ("section", Text.quoted name),
      ("start", start.outline),
      ("previous_end", previousEnd.outline)]
  | addressOverflow name => Text.named e.kind [("section", Text.quoted name)]
  | headerMissing size | descriptorTableSize size =>
    Text.named e.kind [("size", toString size.toNat)]
  | headerOutOfReach headerEnd limit =>
    Text.named e.kind [("end", toString headerEnd.toNat), ("limit", toString limit.toNat)]
  | notIdentityMapped imageEnd limit =>
    Text.named e.kind [("end", imageEnd.outline), ("limit", limit.outline)]

end LayoutError

end ProtectedBoot.Layout
