import ProtectedBoot.Layout.Contract

/-!
# Validation decides the layout contract

`validate` looks at the sections one after the other and compares each of them with its predecessor
only, in words. `Contract` compares every two sections, over the naturals. The two agree
(`validate_eq_ok_iff`): a section that starts no earlier than its predecessor ends starts no earlier
than any of its predecessors ends, because none of them ends before it starts
(`checkPlacement_eq_ok_iff`).

What validation computes without a check, the reach of the header, is computed behind the check of
the placement, and never leaves the range of a word there (`validate_ne_fault`).
-/

namespace ProtectedBoot.Layout

/-! ## Positions and kinds -/

namespace SectionKind

theorem mem_all (k : SectionKind) : k ∈ all.toList := by
  cases k <;> simp [all]

theorem index_all {i : Nat} (h : i < 7) : all[i].index = ⟨i, h⟩ := by
  have every : (i : Fin 7) → all[i].index = i := by decide +revert
  exact every ⟨i, h⟩

theorem index_le_bss (k : SectionKind) : k = bss ∨ k.index < bss.index := by
  cases k <;> decide

theorem index_lt_or_lt {j k : SectionKind} (h : j ≠ k) : j.index < k.index ∨ k.index < j.index := by
  revert h
  cases j <;> cases k <;> decide

theorem alignment_isPowerOfTwo (k : SectionKind) : k.alignment.toNat.isPowerOfTwo := by
  cases k with
  | descriptorTable => exact ⟨11, rfl⟩
  | _ => exact ⟨12, rfl⟩

end SectionKind

theorem PlacedSection.end?_eq_some_iff {s : PlacedSection} {e : PhysAddr} :
    s.end? = some e ↔ s.stop = e.toNat :=
  Address.add?_eq_some_iff

theorem pageBytes_isPowerOfTwo : Platform.pageBytes.toNat.isPowerOfTwo := ⟨12, rfl⟩

namespace LayoutPlan

variable {p : LayoutPlan}

theorem toList_sections (p : LayoutPlan) :
    p.sections.toList = SectionKind.all.toList.map p.sectionAt := by
  rw [← Vector.toList_map]
  congr 1
  ext i hi : 1
  rw [Vector.getElem_map, sectionAt, SectionKind.index_all hi]
  rfl

theorem forall_sections_iff {P : PlacedSection → Prop} :
    (∀ s ∈ p.sections.toList, P s) ↔ ∀ k, P (p.sectionAt k) := by
  rw [toList_sections, List.forall_mem_map]
  exact ⟨fun h k => h k k.mem_all, fun h k _ => h k⟩

theorem pairwise_sections_iff {R : PlacedSection → PlacedSection → Prop} :
    p.sections.toList.Pairwise R ↔
      ∀ j k : SectionKind, j.index < k.index → R (p.sectionAt j) (p.sectionAt k) := by
  rw [List.pairwise_iff_getElem]
  constructor
  · intro h j k before
    exact h j.index k.index (by simp) (by simp) before
  · intro h i j hi hj before
    rw [Vector.length_toList] at hi hj
    have apart := h SectionKind.all[i] SectionKind.all[j]
    rw [sectionAt, sectionAt, SectionKind.index_all hi, SectionKind.index_all hj] at apart
    exact apart before

/-! ## The checks, one by one -/

section Checks

variable {base : PhysAddr} {header table s : PlacedSection} {offset : Word}

theorem checkBase_eq_ok_iff :
    checkBase base = .ok () ↔ 0x100000 ≤ base.toNat ∧ 4096 ∣ base.toNat := by
  have legacy : Platform.legacyEnd.toNat = 0x100000 := rfl
  have aligned : isAligned base.bits Platform.pageBytes = true ↔ 4096 ∣ base.toNat :=
    isAligned_iff_dvd pageBytes_isPowerOfTwo
  rw [checkBase, legacy, ← aligned]
  split
  · simp
    omega
  · cases isAligned base.bits Platform.pageBytes <;> simp
    omega

theorem checkOrder_eq_ok_iff {i : Nat} {l : List PlacedSection} {kinds : List SectionKind}
    (same_length : l.length = kinds.length) :
    checkOrder i l kinds = .ok () ↔ l.map PlacedSection.kind = kinds := by
  induction l generalizing i kinds with
  | nil =>
    obtain rfl := List.length_eq_zero_iff.1 same_length.symm
    simp [checkOrder]
  | cons s rest ih =>
    cases kinds with
    | nil => cases same_length
    | cons k kinds =>
      rw [checkOrder]
      split
      · rename_i same
        simp [ih (Nat.succ.inj same_length), same]
      · rename_i other
        simp [other]

theorem checkSizes_eq_ok_iff :
    checkSizes header table = .ok () ↔
      12 ≤ header.size.toNat ∧ 1 ≤ table.size.toNat ∧ table.size.toNat ≤ 65536 ∧
        8 ∣ table.size.toNat := by
  have bytes : headerBytes.toNat = 12 := rfl
  have most : maxTableBytes.toNat = 65536 := rfl
  have zero : table.size = 0 ↔ table.size.toNat = 0 := BitVec.toNat_inj.symm
  rw [checkSizes, bytes, most]
  split
  · simp
    omega
  · split
    · rename_i bad
      rw [zero] at bad
      simp only [reduceCtorEq, false_iff]
      omega
    · rename_i good
      rw [zero] at good
      simp only [true_iff]
      omega

theorem checkSection_eq_ok_iff {previousEnd e : PhysAddr} :
    checkSection offset previousEnd s = .ok e ↔
      s.kind.alignment.toNat ∣ s.start.toNat ∧ previousEnd.toNat ≤ s.start.toNat ∧
        s.stop = e.toNat ∧ s.stop + offset.toNat ≤ 0xFFFFFFFF := by
  have aligned : isAligned s.start.bits s.kind.alignment = true ↔
      s.kind.alignment.toNat ∣ s.start.toNat :=
    isAligned_iff_dvd s.kind.alignment_isPowerOfTwo
  rw [checkSection, ← aligned]
  cases isAligned s.start.bits s.kind.alignment with
  | false => simp
  | true =>
    simp only [Bool.not_true, Bool.false_eq_true, if_false, true_and]
    split
    · simp
      omega
    · rename_i behind
      have behind := Nat.le_of_not_lt behind
      rcases ends : s.end? with _ | stop
      · -- A section whose end is no address has no end to answer with.
        simp only [reduceCtorEq, false_iff]
        rintro ⟨-, at_e, -⟩
        rw [PlacedSection.end?_eq_some_iff.2 at_e] at ends
        cases ends
      · have at_stop := PlacedSection.end?_eq_some_iff.1 ends
        have reach : (add? stop.bits offset).isNone = true ↔
            ¬ s.stop + offset.toNat ≤ 0xFFFFFFFF := by
          rw [Option.isNone_iff_eq_none, add?_eq_none_iff, at_stop, Nat.not_le]
          exact Iff.rfl
        have same : stop = e ↔ s.stop = e.toNat := by
          rw [at_stop]
          exact ⟨congrArg Address.toNat, Address.ext_toNat⟩
        simp only [reach, ite_not]
        split
        · rename_i mapped
          rw [Except.ok.injEq, same]
          exact ⟨fun at_e => ⟨behind, at_e, mapped⟩, fun h => h.2.1⟩
        · rename_i unmapped
          simp [unmapped]

/-- **Comparing neighbours is comparing all.** The sections pass when each of them is aligned, lies
behind `first` and is mapped, and none of them starts before an earlier one ends. -/
theorem checkPlacement_eq_ok_iff {first : PhysAddr} {l : List PlacedSection} :
    checkPlacement offset first l = .ok () ↔
      (∀ s ∈ l, s.kind.alignment.toNat ∣ s.start.toNat ∧ first.toNat ≤ s.start.toNat ∧
        s.stop + offset.toNat ≤ 0xFFFFFFFF) ∧
      l.Pairwise fun s r => s.stop ≤ r.start.toNat := by
  induction l generalizing first with
  | nil => simp [checkPlacement]
  | cons s rest ih =>
    simp only [checkPlacement, bind_eq_ok_iff, checkSection_eq_ok_iff, ih, List.forall_mem_cons,
      List.pairwise_cons]
    constructor
    · rintro ⟨e, ⟨aligned, behind, at_e, mapped⟩, each, apart⟩
      have le_stop : s.start.toNat ≤ s.stop := Nat.le_add_right _ _
      refine ⟨⟨⟨aligned, behind, mapped⟩, fun r hr => ?_⟩, fun r hr => ?_, apart⟩
      · obtain ⟨aligned_r, behind_r, mapped_r⟩ := each r hr
        exact ⟨aligned_r, by omega, mapped_r⟩
      · obtain ⟨-, behind_r, -⟩ := each r hr
        omega
    · rintro ⟨⟨⟨aligned, behind, mapped⟩, each⟩, apart_s, apart⟩
      have at_e : (Address.ofNat s.stop : PhysAddr).toNat = s.stop := Address.toNat_ofNat (by omega)
      refine ⟨.ofNat s.stop, ⟨aligned, behind, at_e.symm, mapped⟩, fun r hr => ?_, apart⟩
      obtain ⟨aligned_r, -, mapped_r⟩ := each r hr
      exact ⟨aligned_r, Nat.le_trans (Nat.le_of_eq at_e) (apart_s r hr), mapped_r⟩

/-- The reach of a header that lies in the image and in the address space is a number. -/
theorem exists_headerEnd (behind : base.toNat ≤ header.start.toNat)
    (fits : header.start.toNat + 12 < 0x100000000) :
    ∃ e, headerEnd base header = .ok e ∧ base.toNat + e.toNat = header.start.toNat + 12 := by
  have word {k : Nat} (h : k < 0x100000000) : (BitVec.ofNat 32 k).toNat = k :=
    Address.toNat_ofNat (s := .physical) h
  have sum := word fits
  have distance := word (k := header.start.toNat + 12 - base.toNat) (by omega)
  refine ⟨BitVec.ofNat 32 (header.start.toNat + 12 - base.toNat),
    bind_eq_ok_iff.2 ⟨BitVec.ofNat 32 (header.start.toNat + 12), checkedAdd_eq_ok_iff.2 sum.symm,
      checkedSub_eq_ok_iff.2 ?_⟩, ?_⟩
  · rw [sum, distance]
    exact (Nat.add_sub_cancel' (Nat.le_add_right_of_le behind)).symm
  · rw [distance]
    exact Nat.add_sub_cancel' (Nat.le_add_right_of_le behind)

theorem checkReach_of_placed (behind : base.toNat ≤ header.start.toNat)
    (fits : header.start.toNat + 12 < 0x100000000) :
    (∀ f, checkReach base header ≠ .error (.fault f)) ∧
      (checkReach base header = .ok () ↔ header.start.toNat + 12 ≤ base.toNat + 8192) := by
  obtain ⟨e, he, at_e⟩ := exists_headerEnd behind fits
  have window : Platform.searchWindow.toNat = 8192 := rfl
  simp only [checkReach, he, window]
  split
  · simp
    omega
  · simp
    omega

end Checks

/-! ## The end of the image -/

theorem toNat_markers_physEnd (fits : (p.sectionAt .bss).stop ≤ 0xFFFFFFFF) :
    p.markers.physEnd.toNat = p.imageEnd := by
  have page : Platform.pageBytes.toNat = 4096 := rfl
  have at_end := Address.toNat_ofNat (s := .physical) (Nat.lt_succ_of_le fits)
  have ends := PlacedSection.end?_eq_some_iff.2 at_end.symm
  rw [markers, imageEnd, ends]
  dsimp only [Option.getD_some]
  rcases rounded : alignUp? (Address.ofNat (s := .physical) (p.sectionAt .bss).stop).bits
      Platform.pageBytes with _ | e
  · rw [alignUp?_eq_none_iff pageBytes_isPowerOfTwo, page] at rounded
    simp only [Address.toNat] at at_end ⊢
    rw [if_neg (by omega)]
    rfl
  · rw [alignUp?_eq_some_iff pageBytes_isPowerOfTwo, page] at rounded
    simp only [Address.toNat, Option.getD_some] at at_end ⊢
    rw [if_pos (by omega)]
    omega

namespace Contract

variable (contract : p.Contract)

include contract

theorem stop_le_imageEnd (k : SectionKind) : (p.sectionAt k).stop ≤ p.imageEnd := by
  have le_last : (p.sectionAt k).stop ≤ (p.sectionAt .bss).stop := by
    rcases k.index_le_bss with rfl | before
    · exact Nat.le_refl _
    · exact Nat.le_trans (contract.disjoint k .bss before) (Nat.le_add_right _ _)
  have last := contract.mapped .bss
  rw [imageEnd]
  split <;> omega

theorem loadBase_lt_imageEnd : p.config.loadBase.toNat < p.imageEnd := by
  have header := contract.stop_le_imageEnd .header
  have behind := contract.base_le .header
  have size := contract.header_fits
  rw [PlacedSection.stop] at header
  omega

theorem toNat_physEnd : p.markers.physEnd.toNat = p.imageEnd :=
  toNat_markers_physEnd (Nat.le_trans (Nat.le_add_right _ _) (contract.mapped .bss))

/-- No byte belongs to two sections. -/
theorem not_occupies {j k : SectionKind} (h : j ≠ k) (a : Nat) :
    ¬ ((p.sectionAt j).Occupies a ∧ (p.sectionAt k).Occupies a) := by
  rintro ⟨⟨start_j, stop_j⟩, start_k, stop_k⟩
  rcases SectionKind.index_lt_or_lt h with before | before
  · have := contract.disjoint j k before
    omega
  · have := contract.disjoint k j before
    omega

end Contract

/-! ## Validation -/

/-- What the check of the placement says of the sections as they are named. -/
theorem checkPlacement_sections_iff :
    checkPlacement p.config.virtOffset p.config.loadBase p.sections.toList = .ok () ↔
      (∀ k, (p.sectionAt k).kind.alignment.toNat ∣ (p.sectionAt k).start.toNat ∧
        p.config.loadBase.toNat ≤ (p.sectionAt k).start.toNat ∧
        (p.sectionAt k).stop + p.config.virtOffset.toNat ≤ 0xFFFFFFFF) ∧
      ∀ j k, j.index < k.index → (p.sectionAt j).stop ≤ (p.sectionAt k).start.toNat := by
  rw [checkPlacement_eq_ok_iff, forall_sections_iff, pairwise_sections_iff]

theorem checkOrder_sections_iff :
    checkOrder 0 p.sections.toList SectionKind.all.toList = .ok () ↔
      ∀ k, (p.sectionAt k).kind = k := by
  rw [checkOrder_eq_ok_iff (by simp), toList_sections, List.map_map]
  constructor
  · intro same k
    exact List.map_inj_left.1 (same.trans (List.map_id _).symm) k k.mem_all
  · intro same
    exact (List.map_congr_left fun k _ => same k).trans (List.map_id _)

/-- A header that passed the checks before it lies in the image and in the address space. -/
theorem header_placed
    (sizes : checkSizes (p.sectionAt .header) (p.sectionAt .descriptorTable) = .ok ())
    (placed : checkPlacement p.config.virtOffset p.config.loadBase p.sections.toList = .ok ()) :
    p.config.loadBase.toNat ≤ (p.sectionAt .header).start.toNat ∧
      (p.sectionAt .header).start.toNat + 12 < 0x100000000 := by
  obtain ⟨-, behind, mapped⟩ := (checkPlacement_sections_iff.1 placed).1 .header
  have size := (checkSizes_eq_ok_iff.1 sizes).1
  rw [PlacedSection.stop] at mapped
  exact ⟨behind, by omega⟩

/-- **Validation never faults**, whatever the placement. -/
theorem validate_ne_fault (p : LayoutPlan) (f : Fault) : p.validate ≠ .error (.fault f) := by
  rw [validate]
  refine then_ne_fault (mapError_refused_ne_fault _ f) fun _ => ?_
  refine then_ne_fault (mapError_refused_ne_fault _ f) fun _ => ?_
  refine then_ne_fault (mapError_refused_ne_fault _ f) fun sizes => ?_
  refine then_ne_fault (mapError_refused_ne_fault _ f) fun placed => ?_
  rw [mapError_eq_ok_iff] at sizes placed
  obtain ⟨behind, fits⟩ := header_placed sizes placed
  refine then_ne_fault ((checkReach_of_placed behind fits).1 f) fun _ => ?_
  exact mapError_refused_ne_fault _ f

/-- **Validation accepts what meets the contract**, and nothing else. -/
theorem validate_eq_ok_iff : p.validate = .ok () ↔ p.Contract := by
  simp only [validate, then_eq_ok_iff, mapError_eq_ok_iff]
  have image (mapped : (p.sectionAt .bss).stop + p.config.virtOffset.toNat ≤ 0xFFFFFFFF) :
      checkImageEnd p.markers.physEnd p.config.identityLimit = .ok () ↔
        p.imageEnd ≤ p.config.identityLimit.toNat := by
    rw [checkImageEnd, toNat_markers_physEnd (by omega)]
    split <;> simp <;> omega
  constructor
  · rintro ⟨base, order, sizes, placed, reach, last⟩
    obtain ⟨behind, fits⟩ := header_placed sizes placed
    rw [(checkReach_of_placed behind fits).2] at reach
    rw [checkBase_eq_ok_iff] at base
    rw [checkOrder_sections_iff] at order
    rw [checkSizes_eq_ok_iff] at sizes
    rw [checkPlacement_sections_iff] at placed
    obtain ⟨header_fits, table_pos, table_le, table_whole⟩ := sizes
    obtain ⟨each, disjoint⟩ := placed
    exact {
      above_legacy := base.1
      base_aligned := base.2
      in_order := order
      header_fits, table_pos, table_le, table_whole
      aligned := fun k => by simpa only [order] using (each k).1
      base_le := fun k => (each k).2.1
      disjoint
      mapped := fun k => (each k).2.2
      header_reached := reach
      identity := (image (each .bss).2.2).1 last }
  · intro c
    have sizes := checkSizes_eq_ok_iff.2 ⟨c.header_fits, c.table_pos, c.table_le, c.table_whole⟩
    have placed : checkPlacement p.config.virtOffset p.config.loadBase p.sections.toList = .ok () := by
      refine checkPlacement_sections_iff.2 ⟨fun k => ⟨?_, c.base_le k, c.mapped k⟩, c.disjoint⟩
      rw [c.in_order]
      exact c.aligned k
    obtain ⟨behind, fits⟩ := header_placed sizes placed
    exact ⟨checkBase_eq_ok_iff.2 ⟨c.above_legacy, c.base_aligned⟩,
      checkOrder_sections_iff.2 c.in_order, sizes, placed,
      (checkReach_of_placed behind fits).2.2 c.header_reached,
      (image (c.mapped .bss)).2 c.identity⟩

/-- **Validation decides the contract.** It never faults; it accepts a placement exactly when the
placement meets the contract; and in a placement that it accepts no byte belongs to two sections, and
every section lies between the load base and the end of the memory that is mapped to itself. -/
theorem validate_decides_contract (p : LayoutPlan) :
    (∀ f, p.validate ≠ .error (.fault f)) ∧ (p.validate = .ok () ↔ p.Contract) ∧
      (p.validate = .ok () →
        (∀ j k, j ≠ k → ∀ a, ¬ ((p.sectionAt j).Occupies a ∧ (p.sectionAt k).Occupies a)) ∧
        ∀ k, p.config.loadBase.toNat ≤ (p.sectionAt k).start.toNat ∧
          (p.sectionAt k).stop ≤ p.config.identityLimit.toNat) := by
  refine ⟨validate_ne_fault p, validate_eq_ok_iff, fun accepted => ?_⟩
  have contract := validate_eq_ok_iff.1 accepted
  refine ⟨fun j k other => contract.not_occupies other, fun k => ⟨contract.base_le k, ?_⟩⟩
  exact Nat.le_trans (contract.stop_le_imageEnd k) contract.identity

/-- A placement with no room to spare: two empty sections share their starts with their successors,
the last section ends at the last address of the upper mapping, and the image at the limit. -/
def tightPlan : LayoutPlan where
  config := ⟨⟨0x100000⟩, 0xFFEF9FFE, ⟨0x107000⟩⟩
  sections := #v[⟨.header, ⟨0x100000⟩, 12⟩, ⟨.boot, ⟨0x101000⟩, 0⟩,
    ⟨.descriptorTable, ⟨0x101000⟩, 24⟩, ⟨.text, ⟨0x102000⟩, 0x1000⟩, ⟨.rodata, ⟨0x103000⟩, 0⟩,
    ⟨.data, ⟨0x103000⟩, 0x3000⟩, ⟨.bss, ⟨0x106000⟩, 1⟩]

theorem tightPlan_accepted :
    tightPlan.validate = .ok () ∧ tightPlan.Contract ∧
      (∀ a, ¬ ((tightPlan.sectionAt .boot).Occupies a ∧
        (tightPlan.sectionAt .descriptorTable).Occupies a)) ∧
      (tightPlan.sectionAt .bss).stop ≤ 0x107000 := by
  have accepted : tightPlan.validate = .ok () := by rfl
  obtain ⟨-, decides, sound⟩ := validate_decides_contract tightPlan
  obtain ⟨apart, inside⟩ := sound accepted
  exact ⟨accepted, decides.1 accepted, apart _ _ (by decide), (inside .bss).2⟩

end LayoutPlan

end ProtectedBoot.Layout
