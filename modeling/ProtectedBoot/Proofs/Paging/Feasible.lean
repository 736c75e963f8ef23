import ProtectedBoot.Proofs.Paging.Confined

/-!
# How a build ends

A build makes its demands in a fixed order, and stops at the first one that is not met. `BuildCourse`
has one case for each way to end, and every build ends in one of them, whatever was mapped before
(`build_course`). That a build goes well where it is feasible (`build_of_feasible`), and nowhere else
(`feasible_of_build`), is read off the cases.

Where the upper mapping is in the way of low memory, its first page is, so it is refused before any
table is taken (`upper_refused`). Where the two go together, only a table can be lacking, and one is
lacking just if the ranges have addresses in more slots than there are tables with addresses: from
above because each slot takes one table at most (`Confined.mapRange`), from below because each takes
one (`slotsTouched_le_used`).
-/

namespace ProtectedBoot.Paging

open AddressSpace

variable {m n : Nat} {base : PhysAddr} {c : PagingConfig}

/-! ## Refused at the first page -/

namespace AddressSpace

variable {t : AddressSpace n} {z : PageSize} {va : VirtAddr} {pa a : PhysAddr}

/-- A page that is mapped to another frame is refused. -/
theorem WellFormed.mapPage_refused (wf : t.WellFormed) (mapped : t.translate va = .ok (some a))
    (other : a ≠ pa) (f : Flags) : ∃ e, mapPage z va pa f t = (.error (.refused e), t) := by
  have slot_taken : (t.dirEntry (.inDirectory va)).kind ≠ none := by
    intro empty
    rw [translate_of_empty empty] at mapped
    cases mapped
  by_cases starts : va.isAligned z = true ∧ pa.isAligned z = true
  · obtain ⟨hva, hpa⟩ := starts
    have own_frame {q : PhysPage z} (frame : q = .containing pa) : q.locate va = pa := by
      rw [frame, locate_of_aligned hva]
      exact Page.base_containing_of_aligned hpa
    cases z with
    | kib4 =>
      have course := mapSmall_course wf hva hpa f
      show ∃ e, mapSmall va pa f t = _
      generalize mapSmall va pa f t = outcome at course
      cases course with
      | covered => exact ⟨_, rfl⟩
      | exhausted empty => exact absurd empty slot_taken
      | unplaced empty => exact absurd empty slot_taken
      | opened empty => exact absurd empty slot_taken
      | occupied => exact ⟨_, rfl⟩
      | present i links entry =>
        rw [translate_of_links (wf.lt_used_of_links links) links, entry] at mapped
        exact absurd ((Option.some.inj (Except.ok.inj mapped)).symm.trans (own_frame rfl)) other
      | entered i links blank =>
        rw [translate_of_links (wf.lt_used_of_links links) links, blank] at mapped
        cases mapped
    | mib4 =>
      have course := mapLarge_course t hva hpa f
      show ∃ e, mapLarge va pa f t = _
      generalize mapLarge va pa f t = outcome at course
      cases course with
      | linked => exact ⟨_, rfl⟩
      | occupied => exact ⟨_, rfl⟩
      | present leaf =>
        rw [translate_of_leaf leaf] at mapped
        exact absurd ((Option.some.inj (Except.ok.inj mapped)).symm.trans (own_frame rfl)) other
      | entered empty => exact absurd empty slot_taken
  · exact ⟨_, mapPage_of_misaligned starts f t⟩

/-- A range is refused if its first page is. -/
theorem mapRange_refused {len : Word} {f : Flags} {e : PagingError} (pos : 0 < len.toNat)
    (whole : z.bytes.toNat ∣ len.toNat) (virt_fits : va.toNat + len.toNat ≤ 0x100000000)
    (phys_fits : pa.toNat + len.toNat ≤ 0x100000000)
    (first : mapPage z va pa f t = (.error (.refused e), t)) :
    mapRange z va pa len f t = (.error (.refused e), t) := by
  obtain ⟨count, total⟩ := whole
  have page_pos := z.bytes_pos
  rw [mapRange_eq_mapPages ⟨count, total⟩ virt_fits phys_fits, total,
    Nat.mul_div_cancel_left _ page_pos]
  rcases count with _ | more
  · rw [Nat.mul_zero] at total
    omega
  · have one_page : (0 + 1) * z.bytes.toNat ≤ len.toNat := by
      rw [total, Nat.zero_add, Nat.one_mul]
      exact Nat.le_mul_of_pos_right _ (Nat.succ_pos _)
    obtain ⟨v, p, v_at, p_at, run⟩ := mapPages_succ (n := n) f more
      (Nat.le_trans (Nat.add_le_add_left one_page _) virt_fits)
      (Nat.le_trans (Nat.add_le_add_left one_page _) phys_fits)
    rw [Nat.zero_mul, Nat.add_zero] at v_at p_at
    cases Address.ext_toNat v_at
    cases Address.ext_toNat p_at
    rw [run, Attempt.bind_apply, first]

/-! ## Tables from below -/

/-- Slots that link a table are no more than the tables that were taken. -/
theorem WellFormed.countP_le_used (wf : t.WellFormed) {wanted : Nat → Bool}
    (linked : ∀ s : Slot, wanted s.val = true → ∃ i, t.Links s i) :
    (List.range slotCount).countP wanted ≤ t.used := by
  -- Each of the slots chooses its table, and different slots choose different tables.
  have table (k : Nat) (asked : k < slotCount ∧ wanted k = true) :
      ∃ i, i < t.used ∧ ∃ s : Slot, s.val = k ∧ t.Links s i := by
    obtain ⟨i, links⟩ := linked ⟨k, asked.1⟩ asked.2
    exact ⟨i, wf.lt_used_of_links links, ⟨k, asked.1⟩, rfl, links⟩
  choose! index taken slot at_slot links using table
  have mem (k : Nat) : k ∈ ((List.range slotCount).filter wanted).toFinset ↔
      k < slotCount ∧ wanted k = true := by
    rw [List.mem_toFinset, List.mem_filter, List.mem_range]
  have card : ((List.range slotCount).filter wanted).toFinset.card ≤ (Finset.range t.used).card :=
    Finset.card_le_card_of_injOn index ?into ?injective
  · rwa [List.toFinset_card_of_nodup (List.nodup_range.filter _), Finset.card_range,
      ← List.countP_eq_length_filter] at card
  case into =>
    intro k hk
    exact Finset.mem_coe.2 (Finset.mem_range.2 (taken k ((mem k).1 hk)))
  case injective =>
    intro j hj k hk same
    have at_j := (mem j).1 hj
    have at_k := (mem k).1 hk
    have links_k := links k at_k
    rw [← same] at links_k
    rw [← at_slot j at_j, ← at_slot k at_k, wf.link_unique _ _ _ (links j at_j) links_k]

/-- A slot in which some address is mapped, in a directory without large pages, links a table. -/
theorem WellFormed.exists_links_of_mapped (wf : t.WellFormed) (no_leaf : t.NoLeaf)
    {va : VirtAddr} {pa : PhysAddr} (mapped : t.translate va = .ok (some pa)) :
    ∃ i, t.Links (.inDirectory va) i := by
  rcases kind : (t.dirEntry (.inDirectory va)).kind with _ | p | p
  · rw [translate_of_empty kind] at mapped
    cases mapped
  · obtain ⟨i, -, links⟩ := wf.link_taken _ p kind
    exact ⟨i, links⟩
  · exact absurd kind (no_leaf _ p)

/-- Without large pages, slots in which some address is mapped are no more than the tables. -/
theorem WellFormed.countP_mapped_le_used (wf : t.WellFormed) (no_leaf : t.NoLeaf)
    {wanted : Nat → Bool} (mapped : ∀ s : Slot, wanted s.val = true →
      ∃ va pa, Slot.inDirectory va = s ∧ t.translate va = .ok (some pa)) :
    (List.range slotCount).countP wanted ≤ t.used := by
  apply wf.countP_le_used
  intro s asked
  obtain ⟨va, pa, rfl, here⟩ := mapped s asked
  exact wf.exists_links_of_mapped no_leaf here

end AddressSpace

section Done

variable {t u : AddressSpace n} {report : PagingSummary × Log.Record}
  (done : build base c t = (.ok report, u))

include done

/-- The ranges end at addresses. -/
theorem ranges_lt_of_build :
    c.lowStop < 0x100000000 ∧ c.upperFirst < 0x100000000 ∧ c.upperStop < 0x100000000 := by
  obtain ⟨-, identity, low, lower, vs, ve, len, high, identity_eq, -, virt_eq, -, -⟩ :=
    build_eq_ok done
  rw [← c.toNat_identityEnd identity_eq, ← c.toNat_virtRange_first virt_eq,
    ← c.toNat_virtRange_stop virt_eq]
  exact ⟨identity.isLt, vs.toNat_lt, ve.toNat_lt⟩

/-- An address of either range is mapped by a build that went well. -/
theorem exists_mapped_of_wants {s : Slot} (wanted : c.wants s.val = true) :
    ∃ va pa, Slot.inDirectory va = s ∧ u.translate va = .ok (some pa) := by
  obtain ⟨low_lt, -, stop_lt⟩ := ranges_lt_of_build done
  have upper_first := c.upperFirst_eq
  have upper_stop := c.upperStop_eq
  have inside {a : Nat} (a_lt : a < 0x100000000) (at_a : a / 0x400000 = s.val) :
      Slot.inDirectory (.ofNat a) = s := Fin.ext ((Slot.inDirectory_ofNat a_lt).trans at_a)
  unfold PagingConfig.wants at wanted
  rw [Bool.or_eq_true, touches_iff, touches_iff] at wanted
  rcases wanted with ⟨a, -, below, at_a⟩ | ⟨a, above, below, at_a⟩
  · have a_lt := Nat.lt_trans below low_lt
    refine ⟨.ofNat a, _, inside a_lt at_a, translate_low_of_build done ?_⟩
    rwa [Address.toNat_ofNat a_lt]
  · have a_lt := Nat.lt_trans below stop_lt
    have at_va := Address.toNat_ofNat (s := .virtual) a_lt
    have at_pa := Address.toNat_ofNat (s := .physical) (n := a - c.virtOffset.toNat) (by omega)
    refine ⟨.ofNat a, .ofNat (a - c.virtOffset.toNat), inside a_lt at_a, ?_⟩
    exact translate_upper_of_build done (by omega) (by omega) (by omega)

/-- **Small pages take a table for each slot that they have an address in.** -/
theorem slotsTouched_le_used (small : c.pageSize = .kib4) : c.slotsTouched ≤ u.used :=
  (sound_of_build done).wellFormed.countP_mapped_le_used (no_leaf_of_build done small)
    fun _ => exists_mapped_of_wants done

/-- A build that went well has a table with an address for each of its slots. -/
theorem slotsTouched_le_tableCount (small : c.pageSize = .kib4) : c.slotsTouched ≤ tableCount n base := by
  have wf := (sound_of_build done).wellFormed
  exact base_of_build done ▸ Nat.le_trans (slotsTouched_le_used done small) wf.used_le_tableCount

end Done

/-! ## The two ranges -/

section Ranges

variable {lower : AddressSpace n} (low : LowMapped c base lower)

include low

/-- Low memory that was mapped has taken its tables. -/
theorem lowSlots_le (low_lt : c.lowStop < 0x100000000) (small : c.pageSize = .kib4) :
    c.lowSlots ≤ tableCount n base := by
  have mapped (s : Slot) (touched : touches 0 c.lowStop s.val = true) :
      ∃ va pa, Slot.inDirectory va = s ∧ lower.translate va = .ok (some pa) := by
    have zero_at : (Address.zero : VirtAddr).toNat = 0 := rfl
    obtain ⟨a, -, below, at_a⟩ := touches_iff.1 touched
    have a_lt := Nat.lt_trans below low_lt
    have at_va := Address.toNat_ofNat (s := .virtual) a_lt
    exact ⟨.ofNat a, _, Fin.ext ((Slot.inDirectory_ofNat a_lt).trans at_a),
      low.ranged.inside _ (Nat.zero_le _) (by omega)⟩
  have wf := low.confined.sound.wellFormed
  have few := Nat.le_trans (wf.countP_mapped_le_used (low.confined.no_leaf small) mapped)
    wf.used_le_tableCount
  rwa [show lower.base = base from low.ranged.keeps.base] at few

variable {vs : VirtAddr} {len : Word} (vs_at : vs.toNat = c.upperFirst)
  (len_at : c.imageFirst + len.toNat = c.imageStop) (upper_stop_lt : c.upperStop < 0x100000000)

include vs_at len_at upper_stop_lt

/-- **An upper mapping that is in the way of low memory is refused**, at its first page. -/
theorem upper_refused (unfit : ¬ c.UpperFits) :
    ∃ e, mapRange c.pageSize vs c.imageStart len .kernel lower = (.error (.refused e), lower) := by
  obtain ⟨virt_stop, phys_fits, whole⟩ := upper_reach vs_at len_at upper_stop_lt
  have first_eq := c.upperFirst_eq
  have stop_eq := c.upperStop_eq
  have start_at := c.toNat_imageStart
  have zero_at : (Address.zero : VirtAddr).toNat = 0 := rfl
  have pos : 0 < len.toNat := by
    apply Nat.pos_of_ne_zero
    intro zero
    apply unfit
    exact ⟨upper_stop_lt, by omega, .inl (by omega), .inr fun a _ inside => by omega⟩
  suffices ∃ e, mapPage c.pageSize vs c.imageStart .kernel lower = (.error (.refused e), lower) by
    obtain ⟨e, first⟩ := this
    exact ⟨e, mapRange_refused pos whole (by omega) phys_fits first⟩
  by_cases offset_whole : c.pageBytes ∣ c.virtOffset.toNat
  · -- Some address of low memory belongs to the upper mapping, so the first page of that does.
    have clash : c.virtOffset ≠ 0 ∧ c.upperFirst < c.lowStop := by
      by_contra apart
      apply unfit
      refine ⟨upper_stop_lt, by omega, .inr offset_whole, ?_⟩
      rw [or_iff_not_imp_left]
      intro moved a below inside
      exact apart ⟨moved, by omega⟩
    obtain ⟨moved, below⟩ := clash
    have moved : c.virtOffset.toNat ≠ 0 := fun zero => moved (BitVec.eq_of_toNat_eq zero)
    have mapped := low.ranged.inside vs (Nat.zero_le _) (by omega)
    refine low.confined.sound.wellFormed.mapPage_refused mapped ?_ _
    intro same
    have vs_itself : (⟨(Address.zero : PhysAddr).bits + (vs.bits - (Address.zero : VirtAddr).bits)⟩ :
        PhysAddr).toNat = vs.toNat := by
      simp [Address.zero, Address.toNat]
    rw [same] at vs_itself
    omega
  · have misaligned : ¬ (vs.isAligned c.pageSize = true ∧ c.imageStart.isAligned c.pageSize = true) := by
      rintro ⟨starts, -⟩
      rw [Address.isAligned_iff_mod, vs_at, first_eq] at starts
      exact offset_whole ((Nat.dvd_add_right c.dvd_imageFirst).1 (Nat.dvd_of_mod_eq_zero starts))
    exact ⟨_, mapPage_of_misaligned misaligned _ _⟩

end Ranges

/-! ## Building -/

/-- How a build in a block at `base` with `n` page tables ends. -/
inductive BuildCourse (n : Nat) (base : PhysAddr) (c : PagingConfig) {α : Type} :
    Except (Stop PagingError) α → Prop where
  /-- The directory would not start a page. -/
  | misplaced (off : ¬ 4096 ∣ base.toNat) :
    BuildCourse n base c (.error (.refused (.misaligned base.bits 4096)))
  /-- Low memory ends at no address. -/
  | lowOverflow (base_aligned : 4096 ∣ base.toNat) (long : 0x100000000 ≤ c.lowStop) :
    BuildCourse n base c (.error (.refused .addressOverflow))
  /-- A table is lacking for low memory. -/
  | lowTables (base_aligned : 4096 ∣ base.toNat) (low_lt : c.lowStop < 0x100000000)
      (small : c.pageSize = .kib4) (short : tableCount n base < c.lowSlots) :
    BuildCourse n base c (.error (lackOfTable n base))
  /-- The upper mapping starts or ends at no address. -/
  | upperOverflow (low : c.LowFits n base)
      (long : 0x100000000 ≤ c.upperFirst ∨ 0x100000000 ≤ c.upperStop) :
    BuildCourse n base c (.error (.refused .addressOverflow))
  /-- The image ends before it starts. -/
  | reversed (reversed : c.Reversed n base) : BuildCourse n base c (.error (.fault .subOverflow))
  /-- The upper mapping does not go together with low memory. -/
  | clash (low : c.LowFits n base) (image_le : c.imageFirst ≤ c.imageStop) (unfit : ¬ c.UpperFits)
      (e : PagingError) : BuildCourse n base c (.error (.refused e))
  /-- A table is lacking for the upper mapping. -/
  | upperTables (low : c.LowFits n base) (upper : c.UpperFits) (small : c.pageSize = .kib4)
      (short : tableCount n base < c.slotsTouched) : BuildCourse n base c (.error (lackOfTable n base))
  /-- Every demand is met. -/
  | done (low : c.LowFits n base) (upper : c.UpperFits)
      (tables : c.pageSize = .kib4 → c.slotsTouched ≤ tableCount n base) (a : α) :
    BuildCourse n base c (.ok a)

theorem identityEnd_of_le (long : 0x100000000 ≤ c.lowStop) :
    c.identityEnd = .error .addressOverflow := by
  rcases identity_eq : c.identityEnd with e | identity
  · rw [identityEnd_error identity_eq]
  · have identity_at := c.toNat_identityEnd identity_eq
    have identity_lt := identity.isLt
    omega

/-- The upper mapping has no ends only if one of them is no address. -/
theorem upper_long_of_error {e : PagingError} (virt_eq : c.virtRange = .error e) :
    0x100000000 ≤ c.upperFirst ∨ 0x100000000 ≤ c.upperStop := by
  by_contra short
  obtain ⟨first_lt, stop_lt⟩ : c.upperFirst < 0x100000000 ∧ c.upperStop < 0x100000000 := by omega
  obtain ⟨vs, ve, virt_ok, -, -⟩ :=
    c.exists_virtRange (Nat.lt_of_le_of_lt (Nat.le_add_right _ _) stop_lt) first_lt stop_lt
  cases virt_eq.symm.trans virt_ok

/-- What a build goes on with once low memory was mapped with `low` pages up to `identity`. -/
def buildUpper (c : PagingConfig) (identity : Word) (low : Nat) :
    Edit n (PagingSummary × Log.Record) := do
  let virt ← Attempt.ofRefusable c.virtRange
  let len ← Attempt.ofFaulting (checkedSub virt.2.bits virt.1.bits)
  let high ← mapRange c.pageSize virt.1 c.imageStart len .kernel
  let t ← Attempt.state
  return (.of t c.pageSize (low + high), buildRecord t identity virt c.imageStart)

/-- **How a build goes on** after low memory. -/
theorem upper_course {t lower : AddressSpace n} {identity : Word} {pages : Nat}
    (run : build base c t = buildUpper c identity pages lower) (low : LowMapped c base lower)
    (low_fits : c.LowFits n base) : BuildCourse n base c (build base c t).1 := by
  have first_eq := c.upperFirst_eq
  have stop_eq := c.upperStop_eq
  rw [buildUpper, Attempt.bind_apply] at run
  rcases virt_eq : c.virtRange with e | ⟨vs, ve⟩
  · simp only [virt_eq, Attempt.ofRefusable] at run
    rw [run, virtRange_error virt_eq]
    exact .upperOverflow low_fits (upper_long_of_error virt_eq)
  · have vs_at := c.toNat_virtRange_first virt_eq
    have ve_at := c.toNat_virtRange_stop virt_eq
    have vs_lt := vs.toNat_lt
    have stop_lt : c.upperStop < 0x100000000 := ve_at ▸ ve.toNat_lt
    simp only [virt_eq, Attempt.ofRefusable] at run
    by_cases image_le : c.imageFirst ≤ c.imageStop
    · obtain ⟨len, len_eq, distance⟩ : ∃ len, checkedSub ve.bits vs.bits = .ok len ∧
          ve.toNat = vs.toNat + len.toNat := exists_checkedSub (show vs.toNat ≤ ve.toNat by omega)
      have len_at : c.imageFirst + len.toNat = c.imageStop := by omega
      rw [len_eq, Attempt.ofFaulting_ok_bind, Attempt.bind_apply] at run
      by_cases fits : c.UpperFits
      · rcases upper_ends low vs_at len_at fits with ⟨high, u, high_run⟩ | ⟨small, short, u, high_run⟩
        · simp only [high_run] at run
          rw [run]
          exact .done low_fits fits (slotsTouched_le_tableCount run) _
        · simp only [high_run] at run
          rw [run]
          exact .upperTables low_fits fits small short
      · obtain ⟨e, high_run⟩ := upper_refused low vs_at len_at stop_lt fits
        simp only [high_run] at run
        rw [run]
        exact .clash low_fits image_le fits e
    · have reversed : ve.bits.toNat < vs.bits.toNat := by
        show ve.toNat < vs.toNat
        omega
      rw [checkedSub_of_lt reversed] at run
      rw [run]
      exact .reversed ⟨low_fits, by omega, by omega⟩

/-- **How a build ends**, whatever was mapped before. -/
theorem build_course (base : PhysAddr) (c : PagingConfig) (t : AddressSpace n) :
    BuildCourse n base c (build base c t).1 := by
  by_cases aligned : base.isAligned .kib4 = true
  · have base_aligned := Nat.dvd_of_mod_eq_zero (Address.isAligned_iff_mod.1 aligned)
    by_cases low_lt : c.lowStop < 0x100000000
    · obtain ⟨identity, identity_eq, low_run⟩ := low_ends n aligned low_lt
      rcases low_run with ⟨pages, lower, low_run, low⟩ | ⟨small, short, u, low_run⟩
      · have run : build base c t = buildUpper c identity pages lower := by
          simp only [build, Attempt.bind_apply, reset_of_aligned aligned, identity_eq,
            Attempt.ofRefusable, low_run, buildUpper]
        exact upper_course run low ⟨base_aligned, low_lt, lowSlots_le low low_lt⟩
      · have run : build base c t = (.error (lackOfTable n base), u) := by
          simp only [build, Attempt.bind_apply, reset_of_aligned aligned, identity_eq,
            Attempt.ofRefusable, low_run]
        rw [run]
        exact .lowTables base_aligned low_lt small short
    · have run : build base c t = (.error (.refused .addressOverflow), emptyAt n base) := by
        simp only [build, Attempt.bind_apply, reset_of_aligned aligned,
          identityEnd_of_le (Nat.le_of_not_lt low_lt), Attempt.ofRefusable]
      rw [run]
      exact .lowOverflow base_aligned (Nat.le_of_not_lt low_lt)
  · have run : build base c t = (.error (.refused (.misaligned base.bits 4096)), t) := by
      simp only [build, Attempt.bind_apply, reset_of_misaligned aligned]
    rw [run]
    exact .misplaced fun whole => aligned (Address.isAligned_iff_mod.2 (Nat.mod_eq_zero_of_dvd whole))

/-! ## Feasibility -/

/-- A build whose demands are all met goes well. -/
theorem BuildCourse.exists_ok {α : Type} {outcome : Except (Stop PagingError) α}
    (course : BuildCourse n base c outcome) (low : c.LowFits n base) (upper : c.UpperFits)
    (tables : c.pageSize = .kib4 → c.slotsTouched ≤ tableCount n base) : ∃ a, outcome = .ok a := by
  cases course with
  | misplaced off => exact absurd low.base_aligned off
  | lowOverflow _ long => exact absurd low.low_lt (Nat.not_lt.2 long)
  | lowTables _ _ small short => exact absurd (low.low_tables small) (Nat.not_le.2 short)
  | upperOverflow _ long =>
    have first_eq := c.upperFirst_eq
    have stop_eq := c.upperStop_eq
    have stop_lt := upper.upper_stop_lt
    have image_le := upper.image_le
    omega
  | reversed reversed => exact absurd upper.image_le (Nat.not_le.2 reversed.image_lt)
  | clash _ _ unfit => exact absurd upper unfit
  | upperTables _ _ small short => exact absurd (tables small) (Nat.not_le.2 short)
  | done _ _ _ a => exact ⟨a, rfl⟩

/-- A pool in a block with room has nothing but tables with an address. -/
theorem tableCount_of_fits (fits : BlockFits n base) : tableCount n base = n := by
  apply Nat.min_eq_left
  unfold BlockFits at fits
  unfold tableRoom
  omega

/-- **Where there is room, building goes well**, whatever was mapped before. -/
theorem build_of_feasible (feasible : c.Feasible n base)
    (ordered : c.kernelStart.toNat ≤ c.kernelEnd.toNat) (fits : BlockFits n base)
    (t : AddressSpace n) : ∃ report u, build base c t = (.ok report, u) := by
  have count := tableCount_of_fits fits
  have low : c.LowFits n base := {
    base_aligned := feasible.base_aligned
    low_lt := feasible.low_lt
    low_tables := fun small =>
      count.symm ▸ Nat.le_trans c.lowSlots_le_slotsTouched (feasible.pool small) }
  have upper : c.UpperFits := {
    upper_stop_lt := feasible.upper_stop_lt
    image_le := c.imageFirst_le_imageStop ordered
    offset_whole := feasible.offset_whole
    consistent := feasible.consistent }
  obtain ⟨report, answer⟩ := (build_course base c t).exists_ok low upper fun small =>
    count.symm ▸ feasible.pool small
  exact ⟨report, _, Prod.ext answer rfl⟩

/-- **A build that went well was feasible**, in any block at its place with tables enough. -/
theorem feasible_of_build {t u : AddressSpace m} {report : PagingSummary × Log.Record}
    (done : build base c t = (.ok report, u))
    (pool : c.pageSize = .kib4 → c.slotsTouched ≤ n) : c.Feasible n base := by
  have course := build_course base c t
  rw [done] at course
  cases course with
  | done low upper =>
    obtain ⟨low_lt, upper_first_lt, upper_stop_lt⟩ := ranges_lt_of_build done
    exact {
      base_aligned := low.base_aligned
      low_lt, upper_first_lt, upper_stop_lt, pool
      image_lt := Nat.lt_of_le_of_lt (Nat.le_add_right _ _) upper_stop_lt
      offset_whole := upper.offset_whole
      consistent := upper.consistent }

end ProtectedBoot.Paging
