import ProtectedBoot.Proofs.Paging.Feasible

/-!
# Small pages where large ones will do

With large pages both ranges of the boot address space are rounded further: low memory ends no
earlier, and the image starts no later and ends no earlier (`lowStop_le`, `imageFirst_le`,
`imageStop_le`). What was feasible with large pages, a build that went well shows it was
(`feasible_of_build`), is therefore feasible with small ones, if there are tables
(`Feasible.withSmall`), and what the small pages map the large ones map in the same way
(`build_small_of_large`).
-/

namespace ProtectedBoot.Paging

open AddressSpace

variable {m n : Nat} {base : PhysAddr} {c : PagingConfig}

/-! ## What a build shows -/

/-- What an address is translated to says in which of the two ranges it lies. -/
theorem range_of_translate {t u : AddressSpace m} {report : PagingSummary × Log.Record}
    (done : build base c t = (.ok report, u)) {va : VirtAddr} {pa : PhysAddr}
    (mapped : u.translate va = .ok (some pa)) :
    va.toNat < c.lowStop ∧ pa = va.recast .physical ∨
      c.imageFirst ≤ pa.toNat ∧ pa.toNat < c.imageStop ∧
        va.toNat = pa.toNat + c.virtOffset.toNat := by
  obtain ⟨lower, vs, len, vs_at, stop, first, second⟩ := ranged_of_build done
  have upper_first := c.upperFirst_eq
  have upper_stop := c.upperStop_eq
  have zero_at : (Address.zero : VirtAddr).toNat = 0 := rfl
  by_cases low : va.toNat < c.lowStop
  · left
    rw [translate_low_of_build done low] at mapped
    exact ⟨low, (Option.some.inj (Except.ok.inj mapped)).symm⟩
  · by_cases upper : c.upperFirst ≤ va.toNat ∧ va.toNat < c.upperStop
    · right
      have va_lt := va.toNat_lt
      have at_pa := Address.toNat_ofNat (s := .physical) (n := va.toNat - c.virtOffset.toNat) (by omega)
      rw [translate_upper_of_build done (a := .ofNat (va.toNat - c.virtOffset.toNat)) (by omega)
        (by omega) (by omega)] at mapped
      obtain rfl := Option.some.inj (Except.ok.inj mapped)
      omega
    · rw [second.outside va (by omega), first.outside va (by omega), translate_emptyAt] at mapped
      cases mapped

/-! ## Large pages round further -/

namespace PagingConfig

theorem lowStop_le (c : PagingConfig) :
    (c.withPages .kib4).lowStop ≤ (c.withPages .mib4).lowStop := by
  simp only [lowStop, pageBytes, withPages, PageSize.toNat_bytes_kib4, PageSize.toNat_bytes_mib4]
  omega

theorem imageFirst_le (c : PagingConfig) :
    (c.withPages .mib4).imageFirst ≤ (c.withPages .kib4).imageFirst := by
  simp only [imageFirst, pageBytes, withPages, PageSize.toNat_bytes_kib4, PageSize.toNat_bytes_mib4]
  omega

theorem imageStop_le (c : PagingConfig) :
    (c.withPages .kib4).imageStop ≤ (c.withPages .mib4).imageStop := by
  simp only [imageStop, pageBytes, withPages, PageSize.toNat_bytes_kib4, PageSize.toNat_bytes_mib4]
  omega

/-- **What large pages can do small pages can**, if there are tables for them. -/
theorem Feasible.withSmall (large : (c.withPages .mib4).Feasible m base)
    (ordered : c.kernelStart.toNat ≤ c.kernelEnd.toNat)
    (pool : (c.withPages .kib4).slotsTouched ≤ n) : (c.withPages .kib4).Feasible n base := by
  have low_le := c.lowStop_le
  have first_le := c.imageFirst_le
  have stop_le := c.imageStop_le
  have image_le := imageFirst_le_imageStop (c := c.withPages .kib4) ordered
  have low_lt := large.low_lt
  have image_lt := large.image_lt
  have upper_lt := large.upper_stop_lt
  have first_at (z : PageSize) :
      (c.withPages z).upperFirst = (c.withPages z).imageFirst + c.virtOffset.toNat := rfl
  have stop_at (z : PageSize) :
      (c.withPages z).upperStop = (c.withPages z).imageStop + c.virtOffset.toNat := rfl
  rw [stop_at] at upper_lt
  refine {
    base_aligned := large.base_aligned
    low_lt := by omega
    image_lt := by omega
    upper_first_lt := by rw [first_at]; omega
    upper_stop_lt := by rw [stop_at]; omega
    offset_whole := ?whole
    consistent := ?consistent
    pool := fun _ => pool }
  case whole =>
    -- An image without a large page has no small one either.
    rcases large.offset_whole with no_page | whole
    · left
      omega
    · right
      exact Nat.dvd_trans (by decide : 4096 ∣ 4194304) whole
  case consistent =>
    refine large.consistent.imp_right fun apart a below upper => ?_
    rw [first_at, stop_at] at upper
    apply apart a (Nat.lt_of_lt_of_le below low_le)
    rw [first_at, stop_at]
    omega

end PagingConfig

/-! ## Building with either size -/

/-- **Large pages do not change the address space.** If a build with large pages goes well, so does
one with small pages at the same place, if the pool has a table for each slot that its ranges have
addresses in; and what an address is translated to by the small pages, it is by the large ones. -/
theorem build_small_of_large {t u : AddressSpace m} {report : PagingSummary × Log.Record}
    (done : build base (c.withPages .mib4) t = (.ok report, u))
    (ordered : c.kernelStart.toNat ≤ c.kernelEnd.toNat) (fits : BlockFits n base)
    (pool : (c.withPages .kib4).slotsTouched ≤ n) (s : AddressSpace n) :
    ∃ report' w, build base (c.withPages .kib4) s = (.ok report', w) ∧
      ∀ va pa, w.translate va = .ok (some pa) → u.translate va = .ok (some pa) := by
  have large : (c.withPages .mib4).Feasible m base := feasible_of_build done fun small => by cases small
  obtain ⟨report', w, small⟩ := build_of_feasible (large.withSmall ordered pool) ordered fits s
  refine ⟨report', w, small, fun va pa mapped => ?_⟩
  rcases range_of_translate small mapped with ⟨low, rfl⟩ | ⟨above, below, at_va⟩
  · exact translate_low_of_build done (Nat.lt_of_lt_of_le low c.lowStop_le)
  · exact translate_upper_of_build done (Nat.le_trans c.imageFirst_le above)
      (Nat.lt_of_lt_of_le below c.imageStop_le) at_va

/-- An image of some pages in the first slot. -/
def lowImage : PagingConfig where
  identityBytes := 0x1800
  kernelStart := ⟨0x101234⟩
  kernelEnd := ⟨0x109876⟩
  virtOffset := 0xC0000000
  pageSize := .mib4

theorem lowImage_small_of_large :
    ∃ report u report' w,
      build ⟨0x200000⟩ (lowImage.withPages .mib4) (empty 0) = (.ok report, u) ∧
      build ⟨0x200000⟩ (lowImage.withPages .kib4) (empty 2) = (.ok report', w) ∧
      w.translate ⟨0xC0101234⟩ = .ok (some ⟨0x101234⟩) ∧
      u.translate ⟨0xC0101234⟩ = .ok (some ⟨0x101234⟩) := by
  have goes_well : (build ⟨0x200000⟩ (lowImage.withPages .mib4) (empty 0)).1.isOk = true := by
    decide +kernel
  have pool : (lowImage.withPages .kib4).slotsTouched ≤ 2 := by decide +kernel
  rcases large : build ⟨0x200000⟩ (lowImage.withPages .mib4) (empty 0) with ⟨e | report, u⟩
  · rw [large] at goes_well
    cases goes_well
  · obtain ⟨report', w, small, keeps⟩ :=
      build_small_of_large large (by decide) (by decide) pool (empty 2)
    have mapped : w.translate ⟨0xC0101234⟩ = .ok (some ⟨0x101234⟩) :=
      translate_upper_of_build small (by decide) (by decide) (by decide)
    exact ⟨report, u, report', w, rfl, small, mapped, keeps _ _ mapped⟩

end ProtectedBoot.Paging
