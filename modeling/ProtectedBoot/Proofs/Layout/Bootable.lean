import ProtectedBoot.Proofs.Layout.Validation
import ProtectedBoot.Proofs.Multiboot.Header

/-!
# A boot loader finds the header of a validated image

Validation knows sections and addresses, the boot loader knows nothing but the bytes of the image. The
two meet at the offset of the header: in a placement that meets the contract the start of the image and
the start of the header's section are both starts of pages, so the offset is one that the boot loader
tries, and the header ends in the window that it searches (`Contract.dvd_headerOffset`,
`Contract.headerOffset_add_le`). Whoever writes the header there is found (`header_found`).
-/

namespace ProtectedBoot.Layout.LayoutPlan

open Multiboot (Header)

variable {p : LayoutPlan}

/-! ## The offset of the header -/

namespace Contract

variable (contract : p.Contract)

include contract

theorem loadBase_add_headerOffset :
    p.config.loadBase.toNat + p.headerOffset = (p.sectionAt .header).start.toNat := by
  unfold headerOffset
  exact Nat.add_sub_cancel' (contract.base_le .header)

theorem dvd_headerOffset : 4096 ∣ p.headerOffset := by
  unfold headerOffset
  apply Nat.dvd_sub
  · exact contract.aligned .header
  · exact contract.base_aligned

theorem headerOffset_add_le : p.headerOffset + 12 ≤ 8192 := by
  have start := contract.loadBase_add_headerOffset
  have reached := contract.header_reached
  omega

end Contract

/-! ## Booting -/

/-- **A boot loader finds the header of a validated image.** Where a placement is accepted and an image
holds a header, with whatever requests, at the place of the header's section, the boot loader finds a
valid header, and none that lies behind it; unless a valid header lies at an earlier multiple of four,
it finds the one that was placed. -/
theorem header_found (accepted : p.validate = .ok ()) {image : Bytes} {flags : Word}
    (placed : image.Holds p.headerOffset (Header.emit flags).toBytes) :
    p.config.loadBase.toNat + p.headerOffset = (p.sectionAt .header).start.toNat ∧
      ∃ j, Header.find image = some j ∧ Header.ValidAt image j ∧ j ≤ p.headerOffset ∧
        ((∀ k, k < p.headerOffset → 4 ∣ k → ¬ Header.ValidAt image k) → j = p.headerOffset) := by
  have contract := validate_eq_ok_iff.1 accepted
  have whole : 4 ∣ p.headerOffset := Nat.dvd_trans (by decide) contract.dvd_headerOffset
  have valid := Header.validAt_of_holds placed
  obtain ⟨j, found, le⟩ :=
    Header.exists_find_of_validAt whole contract.headerOffset_add_le valid
  obtain ⟨whole_j, -, valid_j, -⟩ := Header.find_eq_some_iff.1 found
  refine ⟨contract.loadBase_add_headerOffset, j, found, valid_j, le, ?_⟩
  intro none_earlier
  apply Nat.le_antisymm le
  apply Nat.le_of_not_lt
  intro earlier
  exact none_earlier j earlier whole_j valid_j

/-- A placement whose header starts the second page of the image, the last one in which a boot loader
finds it. -/
def lateHeader : LayoutPlan where
  config := .platform
  sections := #v[⟨.header, ⟨0x101000⟩, 12⟩, ⟨.boot, ⟨0x102000⟩, 0x5000⟩,
    ⟨.descriptorTable, ⟨0x107000⟩, 40⟩, ⟨.text, ⟨0x108000⟩, 0x80000⟩, ⟨.rodata, ⟨0x188000⟩, 0x20000⟩,
    ⟨.data, ⟨0x1A8000⟩, 0x10000⟩, ⟨.bss, ⟨0x1B8000⟩, 0x20000⟩]

/-- A page of zeros, and a header behind it. -/
def lateImage : Bytes :=
  .ofList (List.replicate 0x1000 0 ++ (Header.emit Multiboot.HeaderFlags.boot).toBytes)

theorem lateImage_holds :
    lateImage.Holds 0 (List.replicate 0x1000 0) ∧
      lateImage.Holds 0x1000 (Header.emit Multiboot.HeaderFlags.boot).toBytes := by
  have pieces := Bytes.holds_ofList
    (List.replicate 0x1000 0 ++ (Header.emit Multiboot.HeaderFlags.boot).toBytes)
  rw [Bytes.holds_append_iff, List.length_replicate] at pieces
  exact pieces

/-- Among zeros every word is zero. -/
theorem word?_of_zeros {b : Bytes} {count k : Nat} (zeros : b.Holds 0 (List.replicate count 0))
    (inside : k + 4 ≤ count) : b.word? k = some 0 := by
  have word : littleEndian 4 (0 : Word) = List.replicate 4 0 := by decide
  have number : count = k + (4 + (count - (k + 4))) := by omega
  rw [number, ← List.replicate_append_replicate, ← List.replicate_append_replicate, ← word,
    Bytes.holds_append_iff, Bytes.holds_append_iff, List.length_replicate, Nat.zero_add] at zeros
  exact zeros.2.1.word?

theorem lateImage_blank {k : Nat} (early : k < 0x1000) (whole : 4 ∣ k) :
    ¬ Header.ValidAt lateImage k := by
  rintro ⟨flags, checksum, magic, -⟩
  rw [word?_of_zeros lateImage_holds.1 (by omega)] at magic
  exact absurd magic (by decide)

theorem lateHeader_found :
    lateHeader.validate = .ok () ∧ lateHeader.headerOffset = 0x1000 ∧
      Header.find lateImage = some 0x1000 := by
  have accepted : lateHeader.validate = .ok () := by rfl
  have at_page : lateHeader.headerOffset = 0x1000 := by rfl
  have placed : lateImage.Holds lateHeader.headerOffset
      (Header.emit Multiboot.HeaderFlags.boot).toBytes := by
    rw [at_page]
    exact lateImage_holds.2
  obtain ⟨-, j, found, -, -, only⟩ := header_found accepted placed
  rw [at_page] at only
  have at_j : j = 0x1000 := only fun k early whole => lateImage_blank early whole
  exact ⟨accepted, at_page, at_j ▸ found⟩

end ProtectedBoot.Layout.LayoutPlan
