import ProtectedBoot.Proofs.Paging.Range

/-!
# What one request for a page changes

A small page in an empty slot opens the slot, and with it the translation of a thousand other pages
comes to depend on a table. None of them shows: the table is fresh from the pool, so it is empty, and
no other slot has it. A request that goes well therefore changes the translation of its own page and of
nothing else, and a page that was mapped as asked is not touched at all (`Reachable.mapPage_exact`).
-/

namespace ProtectedBoot.Paging.AddressSpace

variable {n : Nat} {t u : AddressSpace n} {z : PageSize} {va v : VirtAddr} {pa : PhysAddr} {f : Flags}

/-! ## Pages that are mapped already -/

theorem mapSmall_of_mapped (wf : t.WellFormed) (hva : va.isAligned .kib4 = true)
    (hpa : pa.isAligned .kib4 = true) (mapped : t.translate va = .ok (some pa)) :
    (mapSmall va pa f t).2 = t := by
  have course := mapSmall_course wf hva hpa f
  generalize mapSmall va pa f t = outcome at course
  cases course with
  | covered => rfl
  | exhausted => rfl
  | unplaced empty =>
    rw [translate_of_empty empty] at mapped
    cases mapped
  | opened empty =>
    rw [translate_of_empty empty] at mapped
    cases mapped
  | occupied => rfl
  | present => rfl
  | entered i links blank =>
    rw [translate_of_links (wf.lt_used_of_links links) links, blank] at mapped
    cases mapped

theorem mapLarge_of_mapped (hva : va.isAligned .mib4 = true) (hpa : pa.isAligned .mib4 = true)
    (mapped : t.translate va = .ok (some pa)) : (mapLarge va pa f t).2 = t := by
  have course := mapLarge_course t hva hpa f
  generalize mapLarge va pa f t = outcome at course
  cases course with
  | linked => rfl
  | occupied => rfl
  | present => rfl
  | entered empty =>
    rw [translate_of_empty empty] at mapped
    cases mapped

/-- **A page that is mapped as asked stays as it is**, with its rights and with everything else, and
also where the request is refused because the page is of the other size. -/
theorem mapPage_of_mapped (wf : t.WellFormed) (z : PageSize) (f : Flags)
    (mapped : t.translate va = .ok (some pa)) : (mapPage z va pa f t).2 = t := by
  by_cases starts : va.isAligned z = true ∧ pa.isAligned z = true
  · obtain ⟨hva, hpa⟩ := starts
    cases z with
    | kib4 => exact mapSmall_of_mapped wf hva hpa mapped
    | mib4 => exact mapLarge_of_mapped hva hpa mapped
  · have refused := mapPage_of_misaligned starts f t
    rw [refused]

/-! ## The page that was asked for -/

/-- An address as far into a frame as another is into its page is one: it does not wrap. -/
theorem toNat_in_frame (hpa : pa.isAligned z = true) (le : va.toNat ≤ v.toNat)
    (lt : v.toNat < va.toNat + z.bytes.toNat) :
    (⟨pa.bits + (v.bits - va.bits)⟩ : PhysAddr).toNat = pa.toNat + (v.toNat - va.toNat) := by
  have whole := Address.isAligned_iff_mod.1 hpa
  have pa_lt := pa.toNat_lt
  have fits : pa.toNat + (v.toNat - va.toNat) < 0x100000000 := by
    -- The end of memory is the end of a frame of either size.
    have room := add_le_of_dvd (Nat.dvd_of_mod_eq_zero whole) (dvd_end z.bytes_isPowerOfTwo) pa_lt
    omega
  have distance : (v.bits - va.bits).toNat = v.toNat - va.toNat :=
    BitVec.toNat_sub_of_le (BitVec.le_def.2 le)
  show (pa.bits + (v.bits - va.bits)).toNat = _
  rw [BitVec.toNat_add, distance]
  exact Nat.mod_eq_of_lt fits

/-- **Mapping changes exactly the page that was asked for.** Whatever happened before, and whatever
the rights: after a request that went well the addresses of the page translate to those of its frame,
and every other address to what it did. If the page was mapped to the frame before, the request leaves
the whole address space as it was. -/
theorem Reachable.mapPage_exact (h : t.Reachable) (z : PageSize) (va : VirtAddr) (pa : PhysAddr)
    (f : Flags) :
    (∀ u, mapPage z va pa f t = (.ok (), u) → ∀ v : VirtAddr,
      (va.toNat ≤ v.toNat ∧ v.toNat < va.toNat + z.bytes.toNat →
        ∃ a, u.translate v = .ok (some a) ∧ a.toNat = pa.toNat + (v.toNat - va.toNat)) ∧
      (¬ (va.toNat ≤ v.toNat ∧ v.toNat < va.toNat + z.bytes.toNat) →
        u.translate v = t.translate v)) ∧
    (t.translate va = .ok (some pa) → (mapPage z va pa f t).2 = t) := by
  obtain ⟨sound, -⟩ := h.sound
  have wf := sound.wellFormed
  refine ⟨?_, mapPage_of_mapped wf z f⟩
  intro u done v
  obtain ⟨hva, hpa⟩ := aligned_of_mapPage done
  have effect := translate_of_mapPage wf done v
  simp only [samePage_iff hva] at effect
  constructor
  · rintro ⟨le, lt⟩
    rw [if_pos ⟨le, lt⟩] at effect
    exact ⟨_, effect, toNat_in_frame hpa le lt⟩
  · intro other
    rw [effect, if_neg other]

/-- After some other requests, the last large page of memory is mapped with no right at all, and a page
that was mapped before is asked for with other rights. -/
theorem mapPage_exact_after_mixedHistory :
    (∃ u, mapPage .mib4 ⟨0x800000⟩ ⟨0xFFC00000⟩ .none ((empty 1).afterAll mixedHistory) =
        (.ok (), u) ∧
      (∃ a, u.translate ⟨0xBFFFFF⟩ = .ok (some a) ∧ a.toNat = 0xFFFFFFFF) ∧
      u.translate ⟨0x1000⟩ = ((empty 1).afterAll mixedHistory).translate ⟨0x1000⟩) ∧
    (mapPage .kib4 ⟨0x1000⟩ ⟨0x5000⟩ .none ((empty 1).afterAll mixedHistory)).2 =
      (empty 1).afterAll mixedHistory := by
  have reachable := Reachable.empty.afterAll mixedHistory (n := 1) (by decide)
  have goes_well : (mapPage .mib4 ⟨0x800000⟩ ⟨0xFFC00000⟩ .none
      ((empty 1).afterAll mixedHistory)).1.isOk = true := by decide +kernel
  have mapped : ((empty 1).afterAll mixedHistory).translate ⟨0x1000⟩ = .ok (some ⟨0x5000⟩) := by
    decide +kernel
  obtain ⟨changes, -⟩ := reachable.mapPage_exact .mib4 ⟨0x800000⟩ ⟨0xFFC00000⟩ .none
  obtain ⟨-, stays⟩ := reachable.mapPage_exact .kib4 ⟨0x1000⟩ ⟨0x5000⟩ .none
  refine ⟨?_, stays mapped⟩
  rcases run : mapPage .mib4 ⟨0x800000⟩ ⟨0xFFC00000⟩ .none
      ((empty 1).afterAll mixedHistory) with ⟨e | _, u⟩
  · rw [run] at goes_well
    cases goes_well
  · have own := (changes u run ⟨0xBFFFFF⟩).1 (by decide)
    have other := (changes u run ⟨0x1000⟩).2 (by decide)
    exact ⟨u, rfl, own, other⟩

end ProtectedBoot.Paging.AddressSpace
