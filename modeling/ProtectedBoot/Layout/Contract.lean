import Mathlib.Order.Bounds.Defs
import ProtectedBoot.Layout.Plan

/-!
# The layout contract

What a placement owes to everyone who relies on it: the firmware, the boot loader, the processor and
the paging code. `Contract` says it of the placement as a whole, over the naturals, where nothing wraps
and every two sections are compared; it is what `LayoutPlan.validate` is measured against. `Packed` is
what a placement looks like that wastes nothing.

`MarkersConsistent` is what those who read the markers take for granted: that they describe the image
as it is, in both of its mappings.
-/

namespace ProtectedBoot.Layout

/-- Where a section ends, whether or not that is an address. -/
def PlacedSection.stop (s : PlacedSection) : Nat := s.start.toNat + s.size.toNat

/-- Whether the byte at a place belongs to a section. -/
def PlacedSection.Occupies (s : PlacedSection) (a : Nat) : Prop := s.start.toNat ≤ a ∧ a < s.stop

instance (s : PlacedSection) (a : Nat) : Decidable (s.Occupies a) :=
  inferInstanceAs (Decidable (_ ∧ _))

namespace LayoutPlan

/-- Where the image ends: behind the last section, at the next start of a page. The last address
stands for an end that is not an address. -/
def imageEnd (p : LayoutPlan) : Nat :=
  let rounded := ((p.sectionAt .bss).stop + 4095) / 4096 * 4096
  if rounded < 0x100000000 then rounded else 0xFFFFFFFF

/-- Where the header lies in the image: how far behind the start of the image its section starts. -/
def headerOffset (p : LayoutPlan) : Nat :=
  (p.sectionAt .header).start.toNat - p.config.loadBase.toNat

/-- The contract of a placement. -/
structure Contract (p : LayoutPlan) : Prop where
  /-- The image spares the firmware's area. -/
  above_legacy : 0x100000 ≤ p.config.loadBase.toNat
  /-- The image starts a page. -/
  base_aligned : 4096 ∣ p.config.loadBase.toNat
  /-- Each section is where its kind belongs. -/
  in_order : ∀ k, (p.sectionAt k).kind = k
  /-- There is room for the boot loader's header. -/
  header_fits : 12 ≤ (p.sectionAt .header).size.toNat
  /-- There is a descriptor table. -/
  table_pos : 1 ≤ (p.sectionAt .descriptorTable).size.toNat
  /-- The processor can be told of the descriptor table. -/
  table_le : (p.sectionAt .descriptorTable).size.toNat ≤ 65536
  /-- The descriptor table consists of whole descriptors. -/
  table_whole : 8 ∣ (p.sectionAt .descriptorTable).size.toNat
  /-- Each section is aligned as its kind demands. -/
  aligned : ∀ k, k.alignment.toNat ∣ (p.sectionAt k).start.toNat
  /-- No section starts before the image does. -/
  base_le : ∀ k, p.config.loadBase.toNat ≤ (p.sectionAt k).start.toNat
  /-- No section starts before an earlier one ends. -/
  disjoint : ∀ j k, j.index < k.index → (p.sectionAt j).stop ≤ (p.sectionAt k).start.toNat
  /-- Each section ends at an address of the upper mapping. -/
  mapped : ∀ k, (p.sectionAt k).stop + p.config.virtOffset.toNat ≤ 0xFFFFFFFF
  /-- The boot loader finds the header. -/
  header_reached :
    (p.sectionAt .header).start.toNat + 12 ≤ p.config.loadBase.toNat + 8192
  /-- The image lies in the memory that is mapped to itself. -/
  identity : p.imageEnd ≤ p.config.identityLimit.toNat

/-! ## Room -/

/-- The sections have the given sizes. -/
def HasSizes (p : LayoutPlan) (sizes : Vector Word 7) : Prop :=
  ∀ k, (p.sectionAt k).size = sizes.get k.index

/-- The sections lie as close together as their alignment lets them. -/
structure Packed (p : LayoutPlan) : Prop where
  /-- The header starts the image. -/
  header_start : (p.sectionAt .header).start = p.config.loadBase
  /-- Each other section starts at the first suitable address behind its predecessor. -/
  next_start : ∀ j k, k.index.val = j.index.val + 1 →
    IsLeast {a | k.alignment.toNat ∣ a ∧ (p.sectionAt j).stop ≤ a} (p.sectionAt k).start.toNat

/-! ## The markers -/

/-- Where the last page of the image ends, whether or not that is an address. -/
def pageStop (p : LayoutPlan) : Nat := ((p.sectionAt .bss).stop + 4095) / 4096 * 4096

/-- The markers describe the image: none of them has wrapped or was cut off. -/
structure MarkersConsistent (p : LayoutPlan) : Prop where
  /-- The image ends with a page. -/
  end_whole : 4096 ∣ p.markers.physEnd.toNat
  /-- No section ends behind the image. -/
  end_covers : ∀ k, (p.sectionAt k).stop ≤ p.markers.physEnd.toNat
  /-- The upper mapping starts at the offset from the image. -/
  virt_start : p.markers.virtStart.toNat = p.markers.physStart.toNat + p.config.virtOffset.toNat
  /-- The upper mapping ends at the offset from the end of the image. -/
  virt_end : p.markers.virtEnd.toNat = p.markers.physEnd.toNat + p.config.virtOffset.toNat
  /-- The image and its upper mapping have the same size, and are not empty. -/
  same_size : ∃ size, p.markers.imageSize = .ok size ∧ 0 < size.toNat ∧
    p.markers.virtEnd.toNat = p.markers.virtStart.toNat + size.toNat
  /-- Each section lies in the upper mapping. -/
  upper : ∀ k, ∃ v, (p.sectionAt k).virtStart? p.config.virtOffset = some v ∧
    p.markers.virtStart.toNat ≤ v.toNat ∧
    v.toNat + (p.sectionAt k).size.toNat ≤ p.markers.virtEnd.toNat

end LayoutPlan

end ProtectedBoot.Layout
