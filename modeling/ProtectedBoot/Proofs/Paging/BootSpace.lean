import ProtectedBoot.Paging.Demand
import ProtectedBoot.Proofs.Paging.Range

/-!
# What the boot address space translates to

A build that goes well maps two ranges, one after the other, in a block without a mapping
(`build_eq_ok`). What each of them does to the translation is known from the loop that maps a range,
and the second one changes nothing that the first one mapped, so the two together say what becomes
of every address (`build_translates`): where they overlap, both say the same.
-/

namespace ProtectedBoot.Paging

open AddressSpace
open Attempt (Triple)

namespace PagingConfig

variable {c : PagingConfig}

/-- Low memory ends where its bytes, rounded up to pages, end. -/
theorem toNat_identityEnd {identity : Word} (h : c.identityEnd = .ok identity) :
    identity.toNat = c.lowStop := by
  rw [identityEnd] at h
  split at h
  · rename_i e rounded
    cases h
    rw [((alignUp?_eq_some_iff c.pageSize.bytes_isPowerOfTwo).1 rounded).2]
    exact Nat.div_mul_self_eq_mod_sub_self.symm
  · cases h

/-- The upper mapping starts where the image does, moved up by the offset. -/
theorem toNat_virtRange_start {vs ve : VirtAddr} (h : c.virtRange = .ok (vs, ve)) :
    vs.toNat = c.imageStart.toNat + c.virtOffset.toNat := by
  rw [virtRange] at h
  split at h
  · cases h
  · split at h
    · rename_i start _
      cases h
      exact (add?_eq_some_iff.1 start).symm
    · cases h

theorem toNat_imageStart (c : PagingConfig) : c.imageStart.toNat = c.imageFirst := by
  rw [imageStart, Address.toNat_alignDown]
  exact Nat.div_mul_self_eq_mod_sub_self.symm

theorem toNat_virtRange_first {vs ve : VirtAddr} (h : c.virtRange = .ok (vs, ve)) :
    vs.toNat = c.upperFirst := by
  rw [c.toNat_virtRange_start h, c.toNat_imageStart, upperFirst_eq]

/-- The upper mapping ends where the image does, moved up by the offset. -/
theorem toNat_virtRange_stop {vs ve : VirtAddr} (h : c.virtRange = .ok (vs, ve)) :
    ve.toNat = c.upperStop := by
  rw [virtRange] at h
  split at h
  · cases h
  · rename_i e rounded
    have at_e : e.toNat = c.imageStop := by
      rw [((alignUp?_eq_some_iff c.pageSize.bytes_isPowerOfTwo).1 rounded).2]
      exact Nat.div_mul_self_eq_mod_sub_self.symm
    split at h
    · rename_i stop
      cases h
      rw [upperStop, ← at_e]
      exact (add?_eq_some_iff.1 stop).symm
    · cases h

end PagingConfig

variable {n : Nat} {t u : AddressSpace n} {base : PhysAddr} {c : PagingConfig}
  {report : PagingSummary × Log.Record}

/-- **How a build goes well.** -/
theorem build_eq_ok (done : build base c t = (.ok report, u)) :
    base.isAligned .kib4 = true ∧
      ∃ identity low lower vs ve len high,
        c.identityEnd = .ok identity ∧
        mapRange c.pageSize .zero .zero identity .kernel (emptyAt n base) = (.ok low, lower) ∧
        c.virtRange = .ok (vs, ve) ∧
        checkedSub ve.bits vs.bits = .ok len ∧
        mapRange c.pageSize vs c.imageStart len .kernel lower = (.ok high, u) := by
  rw [build] at done
  obtain ⟨_, t₀, moved, rest₀⟩ := Attempt.bind_eq_ok done
  obtain ⟨identity, t₁, identity_run, rest₁⟩ := Attempt.bind_eq_ok rest₀
  obtain ⟨low, lower, low_run, rest₂⟩ := Attempt.bind_eq_ok rest₁
  obtain ⟨⟨vs, ve⟩, t₂, virt_run, rest₃⟩ := Attempt.bind_eq_ok rest₂
  obtain ⟨len, t₃, len_run, rest₄⟩ := Attempt.bind_eq_ok rest₃
  obtain ⟨high, upper, high_run, rest₅⟩ := Attempt.bind_eq_ok rest₄
  obtain ⟨identity_eq, rfl⟩ := Attempt.ofRefusable_eq_ok identity_run
  obtain ⟨virt_eq, rfl⟩ := Attempt.ofRefusable_eq_ok virt_run
  obtain ⟨len_eq, rfl⟩ := Attempt.ofFaulting_eq_ok len_run
  obtain rfl : upper = u := congrArg Prod.snd rest₅
  by_cases aligned : base.isAligned .kib4 = true
  · rw [reset_of_aligned aligned] at moved
    cases moved
    exact ⟨aligned, identity, low, lower, vs, ve, len, high, identity_eq, low_run, virt_eq, len_eq,
      high_run⟩
  · rw [reset_of_misaligned aligned] at moved
    cases moved

/-- What was mapped before does not matter to a build: it is forgotten, or the build is refused at
once. -/
theorem build_forgets (base : PhysAddr) (c : PagingConfig) (t t' : AddressSpace n) :
    build base c t = build base c t' ∨
      ∃ a, build base c t = (.error (.refused a), t) ∧ build base c t' = (.error (.refused a), t') := by
  rw [build, Attempt.bind_apply, Attempt.bind_apply]
  by_cases aligned : base.isAligned .kib4 = true
  · rw [reset_of_aligned aligned, reset_of_aligned aligned]
    exact .inl rfl
  · rw [reset_of_misaligned aligned, reset_of_misaligned aligned]
    exact .inr ⟨_, rfl, rfl⟩

/-- A build that went well mapped the two ranges one after the other, each in whole. -/
theorem ranged_of_build (done : build base c t = (.ok report, u)) :
    ∃ (lower : AddressSpace n) (vs : VirtAddr) (len : Nat),
      vs.toNat = c.upperFirst ∧ c.upperFirst + len = c.upperStop ∧
        (emptyAt n base).Ranged .zero .zero c.lowStop lower ∧ lower.Ranged vs c.imageStart len u := by
  obtain ⟨aligned, identity, low, lower, vs, ve, len, high, identity_eq, low_run, virt_eq, len_eq,
    high_run⟩ := build_eq_ok done
  obtain ⟨-, first⟩ := mapRange_ranged (sound_emptyAt aligned) low_run
  obtain ⟨-, second⟩ := mapRange_ranged first.sound high_run
  have vs_at := c.toNat_virtRange_first virt_eq
  have ve_at : ve.toNat = vs.toNat + len.toNat := checkedSub_eq_ok_iff.1 len_eq
  refine ⟨lower, vs, len.toNat, vs_at, ?_, c.toNat_identityEnd identity_eq ▸ first, second⟩
  rw [← vs_at, ← ve_at, c.toNat_virtRange_stop virt_eq]

theorem dvd_base_of_build (done : build base c t = (.ok report, u)) : 4096 ∣ base.toNat :=
  Nat.dvd_of_mod_eq_zero (Address.isAligned_iff_mod.1 (build_eq_ok done).1)

theorem sound_of_build (done : build base c t = (.ok report, u)) : u.Sound := by
  obtain ⟨lower, vs, len, -, -, -, second⟩ := ranged_of_build done
  exact second.sound

/-- A build that went well put the directory where it was asked to. -/
theorem base_of_build (done : build base c t = (.ok report, u)) : u.base = base := by
  obtain ⟨lower, vs, len, -, -, first, second⟩ := ranged_of_build done
  rw [second.keeps.base, first.keeps.base, base_emptyAt]

/-- The directory maps no large page. -/
def AddressSpace.NoLeaf (t : AddressSpace n) : Prop := ∀ s p, (t.dirEntry s).kind ≠ some (.leaf p)

/-- A request for a small page enters no large page. -/
theorem no_leaf_of_mapSmall {va : VirtAddr} {pa : PhysAddr} {f : Flags} (wf : t.WellFormed)
    (no_leaf : t.NoLeaf) (done : mapPage .kib4 va pa f t = (.ok (), u)) : u.NoLeaf := by
  obtain ⟨hva, hpa⟩ := aligned_of_mapPage done
  have course := mapSmall_course wf hva hpa f
  rw [show mapSmall va pa f t = _ from done] at course
  cases course with
  | opened empty free a place =>
    intro s p
    rw [dirEntry_setTableEntry, dirEntry_linkNext]
    split
    · simp
    · exact no_leaf s p
  | present => exact no_leaf
  | entered => exact no_leaf

theorem no_leaf_of_mapRange {va : VirtAddr} {pa : PhysAddr} {f : Flags} {len : Word} {k : Nat}
    (sound : t.Sound) (no_leaf : t.NoLeaf) (done : mapRange .kib4 va pa len f t = (.ok k, u)) :
    u.NoLeaf := by
  have range : Triple (fun t : AddressSpace n => t.Sound ∧ t.NoLeaf) (mapRange .kib4 va pa len f)
      (fun k u => k * PageSize.kib4.bytes.toNat = len.toNat ∧ u.Sound ∧ u.NoLeaf)
      (fun _ _ => True) := by
    refine mapRange_triple (I := fun _ t => t.Sound ∧ t.NoLeaf) ?_ ?_
    · exact fun _ _ _ _ => trivial
    · rintro k v p - - - t ⟨sound, no_leaf⟩
      rcases run : mapPage .kib4 v p f t with ⟨e | _, t'⟩
      · trivial
      · exact ⟨sound.of_mapPage run, no_leaf_of_mapSmall sound.wellFormed no_leaf run⟩
  obtain ⟨-, -, none_left⟩ := range.of_ok ⟨sound, no_leaf⟩ done
  exact none_left

/-- **A build of small pages leaves no large page in the directory.** -/
theorem no_leaf_of_build (done : build base c t = (.ok report, u)) (small : c.pageSize = .kib4) :
    u.NoLeaf := by
  obtain ⟨aligned, identity, low, lower, vs, ve, len, high, -, low_run, -, -, high_run⟩ :=
    build_eq_ok done
  have start : (emptyAt n base).NoLeaf := by
    intro s p
    simp
  have sound := (mapRange_ranged (sound_emptyAt aligned) low_run).2.sound
  rw [small] at low_run high_run
  exact no_leaf_of_mapRange sound (no_leaf_of_mapRange (sound_emptyAt aligned) start low_run) high_run

/-- Low memory stays where it is. -/
theorem translate_low_of_build (done : build base c t = (.ok report, u)) {va : VirtAddr}
    (below : va.toNat < c.lowStop) : u.translate va = .ok (some (va.recast .physical)) := by
  obtain ⟨lower, vs, len, -, -, first, second⟩ := ranged_of_build done
  have zero_at : (Address.zero : VirtAddr).toNat = 0 := rfl
  rw [second.keeps.translate (first.inside va (Nat.zero_le _) (by omega))]
  simp [Address.recast, Address.zero]

/-- An address of the image has its place in the upper mapping. -/
theorem translate_upper_of_build (done : build base c t = (.ok report, u)) {va : VirtAddr}
    {a : PhysAddr} (first_le : c.imageFirst ≤ a.toNat) (lt : a.toNat < c.imageStop)
    (at_va : va.toNat = a.toNat + c.virtOffset.toNat) : u.translate va = .ok (some a) := by
  obtain ⟨lower, vs, len, vs_at, stop, -, second⟩ := ranged_of_build done
  have upper_first := c.upperFirst_eq
  have upper_stop := c.upperStop_eq
  have distance : va.toNat = vs.toNat + (a.toNat - c.imageFirst) := by omega
  have place : a.toNat = c.imageStart.toNat + (a.toNat - c.imageFirst) := by
    rw [c.toNat_imageStart]
    omega
  rw [second.inside va (by omega) (by omega)]
  refine congrArg (fun x => Except.ok (some (Address.mk x))) ?_
  rw [bits_of_toNat_add distance, bits_of_toNat_add place]
  grind

/-- **The boot address space is what was asked for, and nothing else.** After a build that went
well, whatever was mapped before: the directory is at `base`; an address below the end of low memory
translates to itself; an address of the upper mapping translates to the address `virtOffset` further
down; and no other address translates to anything. -/
theorem build_translates (done : build base c t = (.ok report, u)) :
    u.base = base ∧
      ∃ identity vs ve, c.identityEnd = .ok identity ∧ identity.toNat = c.lowStop ∧
        c.virtRange = .ok (vs, ve) ∧ c.virtOffset.toNat ≤ vs.toNat ∧
        ∀ va : VirtAddr,
          (va.toNat < identity.toNat → u.translate va = .ok (some (va.recast .physical))) ∧
          (vs.toNat ≤ va.toNat ∧ va.toNat < ve.toNat →
            u.translate va = .ok (some ⟨va.bits - c.virtOffset⟩)) ∧
          (¬ va.toNat < identity.toNat ∧ ¬ (vs.toNat ≤ va.toNat ∧ va.toNat < ve.toNat) →
            u.translate va = .ok none) := by
  obtain ⟨aligned, identity, low, lower, vs, ve, len, high, identity_eq, low_run, virt_eq, len_eq,
    high_run⟩ := build_eq_ok done
  obtain ⟨-, first⟩ := mapRange_ranged (sound_emptyAt aligned) low_run
  obtain ⟨-, second⟩ := mapRange_ranged first.sound high_run
  have vs_at := c.toNat_virtRange_start virt_eq
  have ve_at : ve.toNat = vs.toNat + len.toNat := checkedSub_eq_ok_iff.1 len_eq
  have zero_at : (Address.zero : VirtAddr).toNat = 0 := rfl
  have nothing (va : VirtAddr) : (emptyAt n base).translate va = .ok none :=
    translate_of_empty (by rw [dirEntry_emptyAt, DirEntry.kind_empty])
  refine ⟨?at_base, identity, vs, ve, identity_eq, c.toNat_identityEnd identity_eq, virt_eq, by omega,
    fun va => ⟨?low, ?upper, ?other⟩⟩
  case at_base =>
    rw [second.keeps.base, first.keeps.base, base_emptyAt]
  case low =>
    -- The second range would have been refused had it mapped one of these addresses elsewhere.
    intro below
    have inside := first.inside va (Nat.zero_le _) (by rwa [zero_at, Nat.zero_add])
    rw [second.keeps.translate inside]
    simp [Address.recast, Address.zero]
  case upper =>
    rintro ⟨le, lt⟩
    have bits : vs.bits = c.imageStart.bits + c.virtOffset := by
      rw [bits_of_toNat_add vs_at, BitVec.ofNat_toNat, BitVec.setWidth_eq]
    rw [second.inside va le (by omega), bits]
    congr 3
    grind
  case other =>
    rintro ⟨above, apart⟩
    rw [second.outside va (by omega), first.outside va (by omega), nothing]

/-- Two pages of low memory, and an image of two pages right above them. -/
def tightConfig : PagingConfig where
  identityBytes := 0x1800
  kernelStart := ⟨0x1234⟩
  kernelEnd := ⟨0x2001⟩
  virtOffset := 0x1000
  pageSize := .kib4

theorem tightConfig_translates :
    ∃ report u, build ⟨0x200000⟩ tightConfig (empty 1) = (.ok report, u) ∧
      u.base = ⟨0x200000⟩ ∧
      u.translate ⟨0x1FFF⟩ = .ok (some ⟨0x1FFF⟩) ∧
      u.translate ⟨0x2000⟩ = .ok (some ⟨0x1000⟩) ∧
      u.translate ⟨0x4000⟩ = .ok none := by
  have goes_well : (build ⟨0x200000⟩ tightConfig (empty 1)).1.isOk = true := by decide +kernel
  have low : tightConfig.identityEnd = .ok 0x2000 := by decide +kernel
  have upper : tightConfig.virtRange = .ok (⟨0x2000⟩, ⟨0x4000⟩) := by decide +kernel
  rcases run : build ⟨0x200000⟩ tightConfig (empty 1) with ⟨e | report, u⟩
  · rw [run] at goes_well
    cases goes_well
  · obtain ⟨at_base, identity, vs, ve, identity_eq, -, virt_eq, -, translated⟩ :=
      build_translates run
    cases low.symm.trans identity_eq
    cases upper.symm.trans virt_eq
    exact ⟨report, u, rfl, at_base, (translated _).1 (by decide),
      (translated _).2.1 (by decide), (translated _).2.2 (by decide)⟩

end ProtectedBoot.Paging
