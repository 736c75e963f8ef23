import ProtectedBoot.Proofs.Layout.Validation
import ProtectedBoot.Proofs.Paging.Feasible

/-!
# A validated image can be mapped

The layout contract is what the paging code relies on. On the platform it keeps the image below the
end of the memory that is mapped to itself, and that is enough for everything the page tables demand
(`Contract.feasible`): the two ranges of the boot address space stay in one directory slot each, far
apart, so two page tables hold them, and large pages need none. What is built maps every byte of
every section twice, to itself and in its place in the upper mapping (`validated_image_mapped`).
-/

namespace ProtectedBoot.Layout.LayoutPlan

open Paging (AddressSpace BlockFits PagingConfig build touches touches_iff)

variable {p : LayoutPlan} {z : PageSize} {n : Nat} {base : PhysAddr}

/-- What the boot address space has to map for a placement. -/
def pagingConfig (p : LayoutPlan) (z : PageSize) : PagingConfig where
  identityBytes := Platform.identityBytes
  kernelStart := p.markers.physStart
  kernelEnd := p.markers.physEnd
  virtOffset := Platform.virtOffset
  pageSize := z

theorem bytes_dvd_virtOffset (z : PageSize) : z.bytes.toNat ∣ Platform.virtOffset.toNat := by
  cases z <;> decide

/-- Low memory is one large page, or a table of small ones. -/
theorem lowStop_pagingConfig (p : LayoutPlan) (z : PageSize) :
    (p.pagingConfig z).lowStop = 0x400000 := by
  have low : (p.pagingConfig z).identityBytes.toNat = 0x400000 := rfl
  rw [PagingConfig.lowStop, PagingConfig.pageBytes, low]
  cases (p.pagingConfig z).pageSize <;> rfl

/-- The upper mapping is the pages of the image, moved up by the offset of the platform. -/
theorem upper_pagingConfig (p : LayoutPlan) (z : PageSize) :
    (p.pagingConfig z).upperFirst = (p.pagingConfig z).imageFirst + 0xC0000000 ∧
      (p.pagingConfig z).upperStop = (p.pagingConfig z).imageStop + 0xC0000000 :=
  ⟨rfl, rfl⟩

/-- The pages of the image start no later than the image does. -/
theorem imageFirst_pagingConfig_le (p : LayoutPlan) (z : PageSize) :
    (p.pagingConfig z).imageFirst ≤ p.config.loadBase.toNat :=
  Nat.div_mul_le_self _ _

namespace Contract

variable (contract : p.Contract) (limit : p.config.identityLimit = ⟨Platform.identityBytes⟩)

include contract

theorem toNat_kernelEnd : (p.pagingConfig z).kernelEnd.toNat = p.imageEnd :=
  contract.toNat_physEnd

/-- The pages of the image end no earlier than the image does. -/
theorem imageEnd_le_imageStop : p.imageEnd ≤ (p.pagingConfig z).imageStop := by
  rw [← contract.toNat_kernelEnd (z := z), PagingConfig.imageStop, PagingConfig.pageBytes]
  cases (p.pagingConfig z).pageSize <;>
    simp only [PageSize.toNat_bytes_kib4, PageSize.toNat_bytes_mib4] <;> omega

include limit

/-- The pages of the image end in the memory that is mapped to itself. -/
theorem imageStop_le : (p.pagingConfig z).imageStop ≤ 0x400000 := by
  have inside := contract.identity
  have at_limit : p.config.identityLimit.toNat = 0x400000 := by
    rw [limit]
    rfl
  rw [PagingConfig.imageStop, contract.toNat_kernelEnd, PagingConfig.pageBytes]
  cases (p.pagingConfig z).pageSize <;>
    simp only [PageSize.toNat_bytes_kib4, PageSize.toNat_bytes_mib4] <;> omega

/-- Each of the two ranges has its addresses in one slot. -/
theorem slotsTouched_le : (p.pagingConfig z).slotsTouched ≤ 2 := by
  have image_le := contract.imageStop_le (z := z) limit
  obtain ⟨first_at, stop_at⟩ := p.upper_pagingConfig z
  have two : (List.range 1024).countP (fun s => s == 0 || s == 768) = 2 := by decide +kernel
  rw [PagingConfig.slotsTouched, ← two]
  refine List.countP_mono_left fun s _ touched => ?_
  rw [Bool.or_eq_true, touches_iff, touches_iff, lowStop_pagingConfig] at touched
  rw [Bool.or_eq_true, beq_iff_eq, beq_iff_eq]
  -- Low memory has its addresses in the first slot, the upper mapping in that of the offset.
  rcases touched with ⟨a, -, below, rfl⟩ | ⟨a, above, below, rfl⟩
  · left
    omega
  · right
    omega

/-- **The contract is what the page tables demand.** -/
theorem feasible (aligned : 4096 ∣ base.toNat) (pool : z = .kib4 → 2 ≤ n) :
    (p.pagingConfig z).Feasible n base := by
  have image_le := contract.imageStop_le (z := z) limit
  have first_le := p.imageFirst_pagingConfig_le z
  have ends := contract.loadBase_lt_imageEnd
  have image_stop := contract.imageEnd_le_imageStop (z := z)
  have low := p.lowStop_pagingConfig z
  obtain ⟨first_at, stop_at⟩ := p.upper_pagingConfig z
  exact {
    base_aligned := aligned
    low_lt := by omega
    image_lt := by omega
    upper_first_lt := by omega
    upper_stop_lt := by omega
    offset_whole := .inr (bytes_dvd_virtOffset z)
    consistent := .inr fun a below inside => by omega
    pool := fun small => Nat.le_trans (contract.slotsTouched_le limit) (pool small) }

end Contract

/-- **A validated image can be mapped.** Where a placement for the platform is accepted, the page
tables for it can be built in any page-aligned block that lies in memory, whatever was mapped before:
small pages take two page tables, large ones none. Afterwards every byte of every section is mapped to
itself, and its place in the upper mapping is mapped to it. -/
theorem validated_image_mapped (accepted : p.validate = .ok ())
    (offset : p.config.virtOffset = Platform.virtOffset)
    (limit : p.config.identityLimit = ⟨Platform.identityBytes⟩) (aligned : 4096 ∣ base.toNat)
    (fits : BlockFits n base) (pool : z = .kib4 → 2 ≤ n) (t : AddressSpace n) :
    ∃ report u, build base (p.pagingConfig z) t = (.ok report, u) ∧
      ∀ k (a : PhysAddr), (p.sectionAt k).Occupies a.toNat →
        u.identityMaps a = .ok true ∧
        ∃ va : VirtAddr, (a.recast .virtual).add p.config.virtOffset = .ok va ∧
          u.translate va = .ok (some a) := by
  have contract := validate_eq_ok_iff.1 accepted
  have ordered : (p.pagingConfig z).kernelStart.toNat ≤ (p.pagingConfig z).kernelEnd.toNat := by
    rw [contract.toNat_kernelEnd]
    exact Nat.le_of_lt contract.loadBase_lt_imageEnd
  obtain ⟨report, u, done⟩ :=
    Paging.build_of_feasible (contract.feasible limit aligned pool) ordered fits t
  refine ⟨report, u, done, fun k a ⟨start_le, lt_stop⟩ => ?_⟩
  have first_le := Nat.le_trans (p.imageFirst_pagingConfig_le z)
    (Nat.le_trans (contract.base_le k) start_le)
  have lt_image := Nat.lt_of_lt_of_le lt_stop
    (Nat.le_trans (contract.stop_le_imageEnd k) (contract.imageEnd_le_imageStop (z := z)))
  have image_le := contract.imageStop_le (z := z) limit
  have low : (a.recast .virtual).toNat < (p.pagingConfig z).lowStop := by
    rw [lowStop_pagingConfig]
    exact Nat.lt_of_lt_of_le lt_image image_le
  obtain ⟨va, sum, at_va⟩ : ∃ va : VirtAddr, (a.recast .virtual).add Platform.virtOffset = .ok va ∧
      va.toNat = a.toNat + 0xC0000000 :=
    Address.exists_add (a := a.recast .virtual) (d := 0xC0000000)
      (by rw [lowStop_pagingConfig] at low; omega)
  refine ⟨AddressSpace.identityMaps_eq_true_iff.2 (Paging.translate_low_of_build done low), va, ?_, ?_⟩
  · rw [offset]
    exact sum
  · exact Paging.translate_upper_of_build done first_le lt_image at_va

/-- An image that fills the memory that is mapped to itself to the last byte. -/
def fullImage : LayoutPlan where
  config := .platform
  sections := #v[⟨.header, ⟨0x100000⟩, 12⟩, ⟨.boot, ⟨0x101000⟩, 0x5000⟩,
    ⟨.descriptorTable, ⟨0x106000⟩, 40⟩, ⟨.text, ⟨0x107000⟩, 0x80000⟩, ⟨.rodata, ⟨0x187000⟩, 0x20000⟩,
    ⟨.data, ⟨0x1A7000⟩, 0x10000⟩, ⟨.bss, ⟨0x1B7000⟩, 0x249000⟩]

theorem fullImage_mapped :
    ∃ report u, build ⟨0x3FD000⟩ (fullImage.pagingConfig .kib4) (.empty 2) = (.ok report, u) ∧
      u.identityMaps ⟨0x3FFFFF⟩ = .ok true ∧
      u.translate ⟨0xC03FFFFF⟩ = .ok (some ⟨0x3FFFFF⟩) := by
  have accepted : fullImage.validate = .ok () := by rfl
  have aligned : 4096 ∣ (⟨0x3FD000⟩ : PhysAddr).toNat := by decide
  have fits : BlockFits 2 ⟨0x3FD000⟩ := by decide
  obtain ⟨report, u, done, mapped⟩ :=
    validated_image_mapped (z := .kib4) accepted rfl rfl aligned fits (fun _ => Nat.le_refl 2) (.empty 2)
  obtain ⟨stays, va, sum, upper⟩ := mapped .bss ⟨0x3FFFFF⟩ (by decide)
  have at_va : (Address.recast .virtual (⟨0x3FFFFF⟩ : PhysAddr)).add fullImage.config.virtOffset =
      .ok ⟨0xC03FFFFF⟩ := by rfl
  cases at_va.symm.trans sum
  exact ⟨report, u, done, stays, upper⟩

end ProtectedBoot.Layout.LayoutPlan
