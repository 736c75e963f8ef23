import ProtectedBoot.Proofs.Layout.Validation

/-!
# The markers of a validated layout

The markers round the end of the image up to a page, and they are computed for any placement: what
does not fit into a word is cut off or wraps. Validation asks that every section ends at an address
of the upper mapping (`Contract.mapped`), which is a demand on the end of the last section and not on
that of its page. The two come apart for an image whose last page is the last one of the address
space, in the upper mapping or in memory (`lastPage_inconsistent`).

So most of what the markers say holds of every validated layout, and all of it exactly if the end of
the last page is an address of the upper mapping (`markers_of_validated`). Otherwise the upper
mapping ends before it starts, or the image ends inside a page (`inverted_or_cut_off`).
-/

namespace ProtectedBoot.Layout.LayoutPlan

variable {p : LayoutPlan}

/-! ## The end of the last page -/

theorem imageEnd_eq (p : LayoutPlan) :
    p.imageEnd = if p.pageStop < 0x100000000 then p.pageStop else 0xFFFFFFFF := rfl

theorem dvd_pageStop (p : LayoutPlan) : 4096 ∣ p.pageStop := Nat.dvd_mul_left _ _

theorem dvd_imageEnd_iff : 4096 ∣ p.imageEnd ↔ p.pageStop < 0x100000000 := by
  have whole := p.dvd_pageStop
  rw [imageEnd_eq]
  split <;> omega

/-- The last page starts no later than the last section ends. -/
theorem pageStop_lt (p : LayoutPlan) : p.pageStop < (p.sectionAt .bss).stop + 4096 := by
  unfold pageStop
  omega

/-! ## What validation guarantees -/

theorem toNat_physStart (p : LayoutPlan) : p.markers.physStart.toNat = p.config.loadBase.toNat := rfl

namespace Contract

variable (contract : p.Contract)

include contract

/-- The image has a size, and is not empty. -/
theorem exists_imageSize :
    ∃ size, p.markers.imageSize = .ok size ∧ 0 < size.toNat ∧
      p.markers.physEnd.toNat = p.markers.physStart.toNat + size.toNat := by
  have ends := contract.loadBase_lt_imageEnd
  have at_end := contract.toNat_physEnd
  have start := p.toNat_physStart
  have ordered : p.markers.physStart.toNat < p.markers.physEnd.toNat := by
    rw [at_end, start]
    exact ends
  obtain ⟨size, size_eq, distance⟩ : ∃ size, p.markers.imageSize = .ok size ∧
      p.markers.physEnd.toNat = p.markers.physStart.toNat + size.toNat :=
    exists_checkedSub (Nat.le_of_lt ordered)
  exact ⟨size, size_eq, by omega, distance⟩

/-- The first section is behind the start of the image, so that the upper mapping starts at an
address. -/
theorem toNat_virtStart :
    p.markers.virtStart.toNat = p.markers.physStart.toNat + p.config.virtOffset.toNat := by
  have behind := contract.base_le .header
  have mapped := contract.mapped .header
  have size := contract.header_fits
  unfold PlacedSection.stop at mapped
  show (p.config.loadBase.bits + p.config.virtOffset).toNat = _
  rw [BitVec.toNat_add]
  exact Nat.mod_eq_of_lt (Nat.lt_succ_of_le (by
    show p.config.loadBase.toNat + _ ≤ _
    omega))

/-- Every section has its place in the upper mapping, behind the start of it. -/
theorem exists_virtStart (k : SectionKind) :
    ∃ v, (p.sectionAt k).virtStart? p.config.virtOffset = some v ∧
      v.toNat = (p.sectionAt k).start.toNat + p.config.virtOffset.toNat ∧
      p.markers.virtStart.toNat ≤ v.toNat := by
  have behind := contract.base_le k
  have mapped := contract.mapped k
  have first := contract.toNat_virtStart
  have start := p.toNat_physStart
  unfold PlacedSection.stop at mapped
  have at_v := Address.toNat_ofNat (s := .virtual)
    (n := (p.sectionAt k).start.toNat + p.config.virtOffset.toNat) (by omega)
  refine ⟨_, ?_, at_v, by omega⟩
  apply Option.map_eq_some_iff.2
  exact ⟨_, add?_eq_some_iff.2 at_v.symm, rfl⟩

/-- The sum of the marker wraps as soon as it leaves the range of a word. -/
theorem toNat_virtEnd :
    p.markers.virtEnd.toNat = (p.imageEnd + p.config.virtOffset.toNat) % 0x100000000 := by
  have sum : p.markers.virtEnd = ⟨p.markers.physEnd.bits + p.config.virtOffset⟩ := by
    rw [markers]
  rw [sum, ← contract.toNat_physEnd]
  exact BitVec.toNat_add p.markers.physEnd.bits p.config.virtOffset

/-! ## When the markers are consistent -/

/-- **The markers are consistent** if the last page ends at an address of the upper mapping. -/
theorem markersConsistent (fits : p.pageStop + p.config.virtOffset.toNat < 0x100000000) :
    p.MarkersConsistent := by
  have no_cut : p.imageEnd = p.pageStop := by
    rw [imageEnd_eq]
    exact if_pos (Nat.lt_of_le_of_lt (Nat.le_add_right _ _) fits)
  have at_end := contract.toNat_physEnd
  have virt_end : p.markers.virtEnd.toNat =
      p.markers.physEnd.toNat + p.config.virtOffset.toNat := by
    rw [contract.toNat_virtEnd, at_end, no_cut]
    exact Nat.mod_eq_of_lt fits
  have virt_start := contract.toNat_virtStart
  obtain ⟨size, subtracts, pos, sum⟩ := contract.exists_imageSize
  refine {
    end_whole := ?whole
    end_covers := ?covers
    virt_start, virt_end
    same_size := ⟨size, subtracts, pos, by omega⟩
    upper := ?upper }
  case whole =>
    rw [at_end, no_cut]
    exact p.dvd_pageStop
  case covers =>
    intro k
    rw [at_end]
    exact contract.stop_le_imageEnd k
  case upper =>
    intro k
    have covered := contract.stop_le_imageEnd k
    obtain ⟨v, placed, at_v, behind⟩ := contract.exists_virtStart k
    unfold PlacedSection.stop at covered
    exact ⟨v, placed, behind, by omega⟩

/-- **What is wrong otherwise.** The sum wraps and the upper mapping ends before it starts, or the end
of the image is cut off inside its last page. -/
theorem inverted_or_cut_off (wraps : 0x100000000 ≤ p.pageStop + p.config.virtOffset.toNat) :
    p.markers.virtEnd.toNat < p.markers.virtStart.toNat ∨ ¬ 4096 ∣ p.markers.physEnd.toNat := by
  have above := contract.above_legacy
  have mapped := contract.mapped .bss
  have first := contract.toNat_virtStart
  have start := p.toNat_physStart
  have last := p.pageStop_lt
  rw [contract.toNat_physEnd, dvd_imageEnd_iff]
  by_cases cut : p.pageStop < 0x100000000
  · -- The sum passes the last address by less than a page, and the image starts far above that.
    left
    have no_cut : p.imageEnd = p.pageStop := by
      rw [imageEnd_eq]
      exact if_pos cut
    rw [contract.toNat_virtEnd, no_cut]
    omega
  · exact .inr cut

theorem markersConsistent_iff :
    p.MarkersConsistent ↔ p.pageStop + p.config.virtOffset.toNat < 0x100000000 := by
  constructor
  · intro consistent
    refine Nat.lt_of_not_le fun wraps => ?_
    rcases contract.inverted_or_cut_off wraps with inverted | cut
    · obtain ⟨size, -, -, sum⟩ := consistent.same_size
      omega
    · exact cut consistent.end_whole
  · exact contract.markersConsistent

end Contract

/-- **The markers of a validated layout.** The image is not empty and its size is computed without a
fault; it ends behind every section; its upper mapping starts at the offset from it, and every section
has its place there. The markers are consistent exactly if the end of the last page is an address of
the upper mapping; otherwise the upper mapping ends before it starts, or the image inside a page. -/
theorem markers_of_validated (accepted : p.validate = .ok ()) :
    (∃ size, p.markers.imageSize = .ok size ∧ 0 < size.toNat ∧
      p.markers.physEnd.toNat = p.markers.physStart.toNat + size.toNat) ∧
    (∀ k, (p.sectionAt k).stop ≤ p.markers.physEnd.toNat) ∧
    p.markers.virtStart.toNat = p.markers.physStart.toNat + p.config.virtOffset.toNat ∧
    (∀ k, ∃ v, (p.sectionAt k).virtStart? p.config.virtOffset = some v ∧
      v.toNat = (p.sectionAt k).start.toNat + p.config.virtOffset.toNat ∧
      p.markers.virtStart.toNat ≤ v.toNat) ∧
    (p.MarkersConsistent ↔ p.pageStop + p.config.virtOffset.toNat < 0x100000000) ∧
    (¬ p.MarkersConsistent → p.markers.virtEnd.toNat < p.markers.virtStart.toNat ∨
      ¬ 4096 ∣ p.markers.physEnd.toNat) := by
  have contract := validate_eq_ok_iff.1 accepted
  have decided := contract.markersConsistent_iff
  refine ⟨contract.exists_imageSize, fun k => ?_, contract.toNat_virtStart, contract.exists_virtStart,
    decided, fun inconsistent => ?_⟩
  · rw [contract.toNat_physEnd]
    exact contract.stop_le_imageEnd k
  · rw [decided, Nat.not_lt] at inconsistent
    exact contract.inverted_or_cut_off inconsistent

/-- The placement without room to spare, with another offset of its upper mapping. -/
def tightPlanAt (offset : Word) : LayoutPlan where
  config := { tightPlan.config with virtOffset := offset }
  sections := tightPlan.sections

/-- One page below the end of the address space there is nothing wrong. -/
theorem pageBelow_consistent :
    (tightPlanAt 0xFFEF8000).validate = .ok () ∧ (tightPlanAt 0xFFEF8000).MarkersConsistent ∧
      (tightPlanAt 0xFFEF8000).markers.virtEnd.toNat = 0xFFFFF000 := by
  have accepted : (tightPlanAt 0xFFEF8000).validate = .ok () := by rfl
  obtain ⟨-, -, -, -, decided, -⟩ := markers_of_validated accepted
  exact ⟨accepted, decided.2 (by decide), by rfl⟩

/-- On the last page of the address space validation accepts a placement whose upper mapping starts
at `0xFFFF9000` and ends at zero. -/
theorem lastPage_inconsistent :
    (tightPlanAt 0xFFEF9000).validate = .ok () ∧
      (tightPlanAt 0xFFEF9000).markers.virtStart = ⟨0xFFFF9000⟩ ∧
      (tightPlanAt 0xFFEF9000).markers.virtEnd = ⟨0⟩ ∧
      ¬ (tightPlanAt 0xFFEF9000).MarkersConsistent := by
  have start : (tightPlanAt 0xFFEF9000).markers.virtStart = ⟨0xFFFF9000⟩ := by rfl
  have stop : (tightPlanAt 0xFFEF9000).markers.virtEnd = ⟨0⟩ := by rfl
  refine ⟨by rfl, start, stop, fun consistent => ?_⟩
  obtain ⟨size, -, -, sum⟩ := consistent.same_size
  rw [start, stop] at sum
  have nothing : (0 : Nat) = 0xFFFF9000 + size.toNat := sum
  omega

end ProtectedBoot.Layout.LayoutPlan
