import ProtectedBoot.Paging.Census
import ProtectedBoot.Proofs.Paging.Feasible
import ProtectedBoot.Proofs.Paging.Order

/-!
# What a summary counts

A directory that has pages of one size only is counted by page: each entry that is in use maps a page
of its own, and each page that is mapped has such an entry (`card_smallLeaves`, `card_largeLeaves`). So
what a build installed is as many pages as the two ranges have together (`leafCount_of_build`).

The build itself counts the pages of one range and then those of the other. Where the ranges share a
page, mapping it for the second time installs nothing, but is counted all the same
(`summary_of_build`). That happens only to an image that is mapped in place.
-/

namespace ProtectedBoot.Paging

open AddressSpace
open Attempt (Triple)

variable {n : Nat} {t u : AddressSpace n} {z : PageSize}

/-! ## Entries in use -/

theorem countP_eq_card {α : Type} {m : Nat} (v : Vector α m) (p : α → Bool) :
    v.countP p = (Finset.univ.filter fun i => p (v.get i) = true).card := by
  have entries : v.toList = (List.finRange m).map v.get := by
    apply List.ext_getElem
    · simp
    · intro i _ _
      simp [Vector.get]
  rw [← Vector.countP_toList, entries, List.countP_map, List.countP_eq_length_filter,
    Finset.card_def, Finset.filter_val, Finset.val_univ_fin, Multiset.filter_coe, Multiset.coe_card]
  simp [Function.comp_def]

namespace AddressSpace

theorem presentCount_eq_card (t : AddressSpace n) :
    t.directory.presentCount = t.presentSlots.card :=
  countP_eq_card t.directory DirEntry.isPresent

theorem pagesAt_eq_kib4_iff {s : Slot} :
    t.pagesAt s = some .kib4 ↔ ∃ p, (t.dirEntry s).kind = some (.link p) := by
  rcases kind : (t.dirEntry s).kind with _ | p | p
  · simp [pagesAt_of_empty kind]
  · simp [pagesAt_of_link kind]
  · simp [pagesAt_of_leaf kind]

theorem pagesAt_eq_mib4_iff {s : Slot} :
    t.pagesAt s = some .mib4 ↔ ∃ p, (t.dirEntry s).kind = some (.leaf p) := by
  rcases kind : (t.dirEntry s).kind with _ | p | p
  · simp [pagesAt_of_empty kind]
  · simp [pagesAt_of_link kind]
  · simp [pagesAt_of_leaf kind]

theorem pagesAt_eq_none_iff {s : Slot} : t.pagesAt s = none ↔ (t.dirEntry s).kind = none := by
  unfold pagesAt
  exact Option.map_eq_none_iff

theorem mem_linkingSlots {s : Slot} : s ∈ t.linkingSlots ↔ t.pagesAt s = some .kib4 := by
  rw [linkingSlots, Finset.mem_filter, and_iff_right (Finset.mem_univ s)]

theorem mem_largeLeaves {s : Slot} : s ∈ t.largeLeaves ↔ t.pagesAt s = some .mib4 := by
  rw [largeLeaves, Finset.mem_filter, and_iff_right (Finset.mem_univ s)]

theorem mem_smallLeaves {e : Fin n × Slot} :
    e ∈ t.smallLeaves ↔ (t.tableEntry e.1 e.2).isPresent = true := by
  rw [smallLeaves, Finset.mem_filter, and_iff_right (Finset.mem_univ e)]

/-- **Each table that was taken has one slot.** -/
theorem WellFormed.card_linkingSlots (wf : t.WellFormed) : t.linkingSlots.card = t.used := by
  obtain ⟨index, bijective, -⟩ := wf.exists_bijective_index
  have same (s : Slot) : s ∈ t.linkingSlots ↔ ∃ p, (t.dirEntry s).kind = some (.link p) := by
    rw [mem_linkingSlots, pagesAt_eq_kib4_iff]
  have : Fintype t.LinkingSlot := Fintype.subtype t.linkingSlots same
  rw [← Fintype.card_of_subtype t.linkingSlots same, Fintype.card_of_bijective bijective,
    Fintype.card_fin]

/-- A table that has an entry was taken. -/
theorem WellFormed.lt_used_of_mem (wf : t.WellFormed) {e : Fin n × Slot} (h : e ∈ t.smallLeaves) :
    e.1.val < t.used := by
  by_contra rest
  rw [mem_smallLeaves, wf.tableEntry_eq_empty (Nat.le_of_not_lt rest)] at h
  cases h

/-! ## Directories with pages of one size -/

/-- Pages of a single size are installed. -/
def PagesOnly (z : PageSize) (t : AddressSpace n) : Prop := ∀ s y, t.pagesAt s = some y → y = z

theorem pagesOnly_emptyAt {base : PhysAddr} : (emptyAt n base).PagesOnly z := by
  intro s y has
  rw [pagesAt_of_empty (by simp)] at has
  cases has

/-- What mapping a page does to the sizes. -/
theorem pagesAt_of_mapPage (wf : t.WellFormed) {va : VirtAddr} {pa : PhysAddr} {f : Flags}
    (done : mapPage z va pa f t = (.ok (), u)) (s : Slot) :
    u.pagesAt s = if s = .inDirectory va then some z else t.pagesAt s := by
  obtain ⟨hva, hpa⟩ := aligned_of_mapPage done
  cases z with
  | kib4 =>
    have course := mapSmall_course wf hva hpa f
    rw [show mapSmall va pa f t = _ from done] at course
    cases course with
    | opened => exact pagesAt_linkNext (Slot.inDirectory va) s
    | present i links => exact pagesAt_put (r := ⟨.kib4, va, pa, f⟩) links.pagesAt s
    | entered i links => exact pagesAt_put (r := ⟨.kib4, va, pa, f⟩) links.pagesAt s
  | mib4 =>
    have course := mapLarge_course t hva hpa f
    rw [show mapLarge va pa f t = _ from done] at course
    cases course with
    | present leaf => exact pagesAt_put (r := ⟨.mib4, va, pa, f⟩) (pagesAt_of_leaf leaf) s
    | entered => exact pagesAt_setPage (Slot.inDirectory va) s f (.containing pa)

theorem pagesOnly_of_mapRange {va : VirtAddr} {pa : PhysAddr} {f : Flags} {len : Word} {k : Nat}
    (sound : t.Sound) (only : t.PagesOnly z) (done : mapRange z va pa len f t = (.ok k, u)) :
    u.PagesOnly z := by
  have range : Triple (fun t : AddressSpace n => t.Sound ∧ t.PagesOnly z) (mapRange z va pa len f)
      (fun k u => k * z.bytes.toNat = len.toNat ∧ u.Sound ∧ u.PagesOnly z) (fun _ _ => True) := by
    refine mapRange_triple (I := fun _ t => t.Sound ∧ t.PagesOnly z) ?_ ?_
    · exact fun _ _ _ _ => trivial
    · rintro k v p - - - t ⟨sound, only⟩
      rcases run : mapPage z v p f t with ⟨e | _, t'⟩
      · trivial
      · refine ⟨sound.of_mapPage run, fun s y has => ?_⟩
        rw [pagesAt_of_mapPage sound.wellFormed run] at has
        split at has
        · exact (Option.some.inj has).symm
        · exact only s y has
  obtain ⟨-, -, only'⟩ := range.of_ok ⟨sound, only⟩ done
  exact only'

/-! ## Counting by page -/

/-- The numbers of the pages that are mapped. -/
def Census (t : AddressSpace n) (z : PageSize) (pages : Finset Nat) : Prop :=
  ∀ k, k ∈ pages ↔
    k * z.bytes.toNat < 0x100000000 ∧ t.translate (.ofNat (k * z.bytes.toNat)) ≠ .ok none

/-- An address in a slot that has a table is mapped if its entry in the table is in use. -/
theorem mapped_iff_mem_smallLeaves {va : VirtAddr} {i : Fin n} (taken : i.val < t.used)
    (links : t.Links (.inDirectory va) i) :
    t.translate va ≠ .ok none ↔ (i, Slot.inTable va) ∈ t.smallLeaves := by
  rw [translate_of_links taken links, mem_smallLeaves, ← Bool.not_eq_false,
    ← TableEntry.page?_eq_none_iff]
  simp

/-! ### Numbers of small pages -/

/-- The number of the small page at two slots. -/
def pageNumber (s r : Slot) : Nat := s.val * 1024 + r.val

theorem pageNumber_lt (s r : Slot) : pageNumber s r < 1048576 := by
  have s_lt : s.val < 1024 := s.isLt
  have r_lt : r.val < 1024 := r.isLt
  rw [pageNumber]
  omega

theorem pageNumber_inj {s s' r r' : Slot} (same : pageNumber s r = pageNumber s' r') :
    s = s' ∧ r = r' := by
  have r_lt : r.val < 1024 := r.isLt
  have r'_lt : r'.val < 1024 := r'.isLt
  rw [pageNumber, pageNumber] at same
  exact ⟨Fin.ext (by omega), Fin.ext (by omega)⟩

/-- Every small page is at the slots that an address in it selects. -/
theorem pageNumber_slots {k : Nat} (lt : k < 1048576) :
    pageNumber (.inDirectory (.ofNat (k * 4096))) (.inTable (.ofNat (k * 4096))) = k := by
  rw [pageNumber, Slot.inDirectory_val, Slot.inTable_val_eq_mod, Address.toNat_ofNat (by omega)]
  omega

theorem slots_pageNumber (s r : Slot) :
    Slot.inDirectory (.ofNat (pageNumber s r * 4096)) = s ∧
      Slot.inTable (.ofNat (pageNumber s r * 4096)) = r :=
  pageNumber_inj (pageNumber_slots (pageNumber_lt s r))

/-- **Small pages are counted by the entries of their tables.** -/
theorem WellFormed.card_smallLeaves (wf : t.WellFormed) (only : t.PagesOnly .kib4)
    {pages : Finset Nat} (census : t.Census .kib4 pages) : t.smallLeaves.card = pages.card := by
  have mem (k : Nat) : k ∈ pages ↔ k < 1048576 ∧ t.translate (.ofNat (k * 4096)) ≠ .ok none := by
    rw [census k, PageSize.toNat_bytes_kib4, show 0x100000000 = 1048576 * 4096 from rfl,
      Nat.mul_lt_mul_right (by decide)]
  -- The page of an entry has the number of the slot of its table, and of its own.
  choose owner links using fun (e : Fin n × Slot) (installed : e ∈ t.smallLeaves) =>
    wf.taken_linked e.1 (wf.lt_used_of_mem installed)
  refine Finset.card_bij (fun e installed => pageNumber (owner e installed) e.2) ?into ?injective ?onto
  case into =>
    intro e installed
    obtain ⟨directory, table⟩ := slots_pageNumber (owner e installed) e.2
    have mapped : t.translate (.ofNat (pageNumber (owner e installed) e.2 * 4096)) ≠ .ok none := by
      refine (mapped_iff_mem_smallLeaves (wf.lt_used_of_mem installed) ?_).2 ?_
      · rw [directory]
        exact links e installed
      · rwa [table]
    exact (mem _).2 ⟨pageNumber_lt _ _, mapped⟩
  case injective =>
    intro e at_e d at_d same
    obtain ⟨same_slot, same_entry⟩ := pageNumber_inj same
    have links_e := links e at_e
    rw [same_slot] at links_e
    exact Prod.ext (Fin.ext (links_e.index_unique (links d at_d))) same_entry
  case onto =>
    intro k wanted
    obtain ⟨lt, mapped⟩ := (mem k).1 wanted
    rcases kind : (t.dirEntry (.inDirectory (.ofNat (k * 4096)))).kind with _ | p | p
    · exact absurd (translate_of_empty kind) mapped
    · obtain ⟨i, taken, -, place⟩ := wf.tableIn_eq_of_link kind
      have own : t.Links (.inDirectory (.ofNat (k * 4096))) i := ⟨p, kind, place⟩
      have installed := (mapped_iff_mem_smallLeaves taken own).1 mapped
      have same : owner _ installed = .inDirectory (.ofNat (k * 4096)) :=
        wf.link_unique _ _ _ (links _ installed) own
      refine ⟨_, installed, ?_⟩
      rw [same]
      exact pageNumber_slots lt
    · cases only _ _ (pagesAt_of_leaf kind)

/-- **Large pages are counted by their slots.** -/
theorem card_largeLeaves (only : t.PagesOnly .mib4) {pages : Finset Nat}
    (census : t.Census .mib4 pages) : t.largeLeaves.card = pages.card := by
  have mem (k : Nat) : k ∈ pages ↔ k < 1024 ∧ t.translate (.ofNat (k * 4194304)) ≠ .ok none := by
    rw [census k, PageSize.toNat_bytes_mib4, show 0x100000000 = 1024 * 4194304 from rfl,
      Nat.mul_lt_mul_right (by decide)]
  have at_slot (s : Slot) : Slot.inDirectory (.ofNat (s.val * 4194304)) = s := by
    have s_lt : s.val < 1024 := s.isLt
    exact Fin.ext (by rw [Slot.inDirectory_ofNat (by omega)]; omega)
  refine Finset.card_bij (fun s _ => s.val) ?into (fun _ _ _ _ same => Fin.ext same) ?onto
  case into =>
    intro s installed
    obtain ⟨p, leaf⟩ := pagesAt_eq_mib4_iff.1 (mem_largeLeaves.1 installed)
    refine (mem _).2 ⟨s.isLt, ?_⟩
    rw [← at_slot s] at leaf
    rw [translate_of_leaf leaf]
    simp
  case onto =>
    intro k wanted
    obtain ⟨lt, mapped⟩ := (mem k).1 wanted
    have number := Slot.inDirectory_ofNat (a := k * 4194304) (by omega)
    refine ⟨.inDirectory (.ofNat (k * 4194304)), mem_largeLeaves.2 ?_, by omega⟩
    rcases has : t.pagesAt (.inDirectory (.ofNat (k * 4194304))) with _ | y
    · exact absurd (translate_of_empty (pagesAt_eq_none_iff.1 has)) mapped
    · rw [only _ _ has]

/-- Without small pages no table is taken, and none has an entry. -/
theorem WellFormed.smallLeaves_eq_empty (wf : t.WellFormed) (only : t.PagesOnly .mib4) :
    t.smallLeaves = ∅ := by
  rw [Finset.eq_empty_iff_forall_notMem]
  intro e installed
  obtain ⟨s, links⟩ := wf.taken_linked _ (wf.lt_used_of_mem installed)
  cases only _ _ links.pagesAt

theorem largeLeaves_eq_empty (only : t.PagesOnly .kib4) : t.largeLeaves = ∅ := by
  rw [Finset.eq_empty_iff_forall_notMem]
  intro s installed
  cases only _ _ (mem_largeLeaves.1 installed)

/-- **Pages of one size are counted by the pages that are mapped.** -/
theorem WellFormed.leafCount_eq (wf : t.WellFormed) (only : t.PagesOnly z) {pages : Finset Nat}
    (census : t.Census z pages) (y : PageSize) :
    t.leafCount y = if y = z then pages.card else 0 := by
  cases z with
  | kib4 =>
    cases y with
    | kib4 => exact wf.card_smallLeaves only census
    | mib4 => exact congrArg Finset.card (largeLeaves_eq_empty only)
  | mib4 =>
    cases y with
    | kib4 => exact congrArg Finset.card (wf.smallLeaves_eq_empty only)
    | mib4 => exact card_largeLeaves only census

end AddressSpace

/-! ## The two ranges -/

namespace PagingConfig

variable {c : PagingConfig} {k : Nat}

theorem pageBytes_pos (c : PagingConfig) : 0 < c.pageBytes := c.pageSize.bytes_pos

theorem mem_lowPages : k ∈ c.lowPages ↔ k * c.pageBytes < c.lowStop := by
  rw [lowPages, Finset.mem_range,
    Nat.lt_div_iff_mul_lt_of_dvd (Nat.ne_of_gt c.pageBytes_pos) c.dvd_lowStop]

theorem mem_upperPages (whole : c.imageFirst = c.imageStop ∨ c.pageBytes ∣ c.virtOffset.toNat) :
    k ∈ c.upperPages ↔ c.upperFirst ≤ k * c.pageBytes ∧ k * c.pageBytes < c.upperStop := by
  rw [upperPages, Finset.mem_Ico]
  rcases whole with nothing | whole
  · -- An upper mapping of nothing may start anywhere.
    have same : c.upperFirst = c.upperStop := by rw [upperFirst_eq, upperStop_eq, nothing]
    rw [same]
    omega
  · have page_ne := Nat.ne_of_gt c.pageBytes_pos
    have first_whole : c.pageBytes ∣ c.upperFirst := Nat.dvd_add c.dvd_imageFirst whole
    have stop_whole : c.pageBytes ∣ c.upperStop := Nat.dvd_add c.dvd_imageStop whole
    rw [Nat.div_le_iff_le_mul_of_dvd page_ne first_whole,
      Nat.lt_div_iff_mul_lt_of_dvd page_ne stop_whole]

end PagingConfig

theorem pages_of (t : AddressSpace n) (z y : PageSize) (k : Nat) :
    (PagingSummary.of t z k).pages y = if y = z then k else 0 := by
  cases z <;> cases y <;> rfl

section Build

variable {base : PhysAddr} {c : PagingConfig} {summary : PagingSummary} {record : Log.Record}
  (done : build base c t = (.ok (summary, record), u))

include done

theorem feasible_of_done : c.Feasible n base :=
  feasible_of_build done fun small => Nat.le_trans (slotsTouched_le_used done small) u.used_le

theorem pagesOnly_of_build : u.PagesOnly c.pageSize := by
  obtain ⟨aligned, identity, low, lower, vs, ve, len, high, -, low_run, -, -, high_run⟩ :=
    build_eq_ok done
  have sound := (mapRange_ranged (sound_emptyAt aligned) low_run).2.sound
  exact pagesOnly_of_mapRange sound
    (pagesOnly_of_mapRange (sound_emptyAt aligned) pagesOnly_emptyAt low_run) high_run

/-- **The pages that are mapped are those of the two ranges.** -/
theorem census_of_build : u.Census c.pageSize (c.lowPages ∪ c.upperPages) := by
  obtain ⟨-, identity, vs, ve, -, identity_at, virt_eq, -, translated⟩ := build_translates done
  obtain ⟨low_lt, -, stop_lt⟩ := ranges_lt_of_build done
  have vs_at := c.toNat_virtRange_first virt_eq
  have ve_at := c.toNat_virtRange_stop virt_eq
  intro k
  rw [Finset.mem_union, PagingConfig.mem_lowPages,
    PagingConfig.mem_upperPages (feasible_of_done done).offset_whole,
    show c.pageSize.bytes.toNat = c.pageBytes from rfl]
  obtain ⟨low, upper, other⟩ := translated (.ofNat (k * c.pageBytes))
  constructor
  · intro wanted
    have lt : k * c.pageBytes < 0x100000000 := by omega
    rw [Address.toNat_ofNat lt] at low upper
    refine ⟨lt, ?_⟩
    rcases wanted with below | inside
    · rw [low (by omega)]
      simp
    · rw [upper (by omega)]
      simp
  · rintro ⟨lt, mapped⟩
    rw [Address.toNat_ofNat lt] at other
    by_contra outside
    exact mapped (other (by omega))

/-- What a build answers is what its two loops counted. -/
theorem summary_eq_of_build :
    summary = .of u c.pageSize (c.lowPages.card + c.upperPages.card) := by
  obtain ⟨aligned, identity, low, lower, vs, ve, len, high, identity_eq, low_run, virt_eq, len_eq,
    high_run⟩ := build_eq_ok done
  have answer : build base c t = (.ok (.of u c.pageSize (low + high),
      buildRecord u identity (vs, ve) c.imageStart), u) := by
    simp only [build, Attempt.bind_apply, reset_of_aligned aligned, identity_eq, low_run, virt_eq,
      len_eq, high_run, Attempt.ofRefusable, Attempt.ofFaulting, Attempt.state]
    rfl
  obtain ⟨low_whole, first⟩ := mapRange_ranged (sound_emptyAt aligned) low_run
  obtain ⟨high_whole, -⟩ := mapRange_ranged first.sound high_run
  have distance : ve.toNat = vs.toNat + len.toNat := checkedSub_eq_ok_iff.1 len_eq
  rw [c.toNat_virtRange_first virt_eq, c.toNat_virtRange_stop virt_eq, ← high_whole] at distance
  rw [c.toNat_identityEnd identity_eq] at low_whole
  have low_count : c.lowPages.card = low := by
    rw [PagingConfig.lowPages, Finset.card_range, ← low_whole]
    exact Nat.mul_div_cancel low c.pageBytes_pos
  have high_count : c.upperPages.card = high := by
    rw [PagingConfig.upperPages, Nat.card_Ico, distance,
      show c.pageSize.bytes.toNat = c.pageBytes from rfl, Nat.add_mul_div_right _ _ c.pageBytes_pos]
    exact Nat.add_sub_cancel_left _ _
  rw [low_count, high_count]
  cases answer.symm.trans done
  rfl

/-- **A page that both ranges have is installed once and counted twice.** -/
theorem pages_of_build (y : PageSize) :
    summary.pages y = u.leafCount y + if y = c.pageSize then c.sharedPages.card else 0 := by
  have installed :=
    (sound_of_build done).wellFormed.leafCount_eq (pagesOnly_of_build done) (census_of_build done) y
  rw [summary_eq_of_build done, pages_of, installed]
  by_cases own : y = c.pageSize
  · rw [if_pos own, if_pos own, if_pos own]
    exact (Finset.card_union_add_card_inter c.lowPages c.upperPages).symm
  · rw [if_neg own, if_neg own, if_neg own]

/-- Ranges that are a distance apart share no page. -/
theorem sharedPages_of_build (moved : c.virtOffset ≠ 0) : c.sharedPages = ∅ := by
  have feasible := feasible_of_done done
  have apart := feasible.consistent.resolve_left moved
  rw [PagingConfig.sharedPages, Finset.eq_empty_iff_forall_notMem]
  intro k shared
  obtain ⟨low, upper⟩ := Finset.mem_inter.1 shared
  exact apart _ (PagingConfig.mem_lowPages.1 low)
    ((PagingConfig.mem_upperPages feasible.offset_whole).1 upper)

end Build

/-- **The summary of a build is right about everything but pages that both ranges have.** Whatever was
mapped before: it has the number of directory entries in use and of those that lead to tables, and of
either size as many pages as are installed, with one more for each page that belongs to low memory and
to the upper mapping. So it counts what is installed just where the two ranges share no page, and they
share none if there is a distance between the image and its upper mapping. -/
theorem summary_of_build {base : PhysAddr} {c : PagingConfig} {summary : PagingSummary}
    {record : Log.Record} (done : build base c t = (.ok (summary, record), u)) :
    summary.directoryEntries = u.presentSlots.card ∧
    summary.tablesUsed = u.linkingSlots.card ∧
    (∀ y, summary.pages y = u.leafCount y + if y = c.pageSize then c.sharedPages.card else 0) ∧
    (summary.Counts u ↔ c.sharedPages = ∅) ∧
    (c.virtOffset ≠ 0 → summary.Counts u) := by
  have directory : summary.directoryEntries = u.presentSlots.card := by
    rw [summary_eq_of_build done]
    exact u.presentCount_eq_card
  have tables : summary.tablesUsed = u.linkingSlots.card := by
    rw [summary_eq_of_build done]
    exact (sound_of_build done).wellFormed.card_linkingSlots.symm
  have pages := pages_of_build done
  have counts_iff : summary.Counts u ↔ c.sharedPages = ∅ := by
    constructor
    · intro counts
      have own := pages c.pageSize
      rw [counts.pages, if_pos rfl] at own
      exact Finset.card_eq_zero.1 (Nat.left_eq_add.1 own)
    · intro apart
      rw [apart, Finset.card_empty] at pages
      exact ⟨directory, tables, fun y => by simpa using pages y⟩
  exact ⟨directory, tables, pages, counts_iff, fun moved =>
    counts_iff.2 (sharedPages_of_build done moved)⟩

theorem tightConfig_counted :
    ∃ summary record u, build ⟨0x200000⟩ tightConfig (empty 1) = (.ok (summary, record), u) ∧
      summary.Counts u := by
  have goes_well : (build ⟨0x200000⟩ tightConfig (empty 1)).1.isOk = true := by decide +kernel
  rcases run : build ⟨0x200000⟩ tightConfig (empty 1) with ⟨e | ⟨summary, record⟩, u⟩
  · rw [run] at goes_well
    cases goes_well
  · obtain ⟨-, -, -, -, moved⟩ := summary_of_build run
    exact ⟨summary, record, u, rfl, moved (by decide)⟩

/-- Two pages of low memory, and an image in the second of them that stays where it is. -/
def imageInPlace : PagingConfig where
  identityBytes := 0x2000
  kernelStart := ⟨0x1000⟩
  kernelEnd := ⟨0x2000⟩
  virtOffset := 0
  pageSize := .kib4

/-- Two pages are installed, and three are counted. -/
theorem imageInPlace_counted_twice :
    ∃ summary record u, build ⟨0x200000⟩ imageInPlace (empty 1) = (.ok (summary, record), u) ∧
      summary.smallPages = 3 ∧ u.smallLeaves.card = 2 ∧ ¬ summary.Counts u := by
  have goes_well : (build ⟨0x200000⟩ imageInPlace (empty 1)).1.isOk = true := by decide +kernel
  have low : imageInPlace.lowPages.card = 2 := by decide
  have upper : imageInPlace.upperPages.card = 1 := by decide
  have shared : imageInPlace.sharedPages.card = 1 := by decide
  rcases run : build ⟨0x200000⟩ imageInPlace (empty 1) with ⟨e | ⟨summary, record⟩, u⟩
  · rw [run] at goes_well
    cases goes_well
  · have counted : summary.smallPages = 3 := by
      rw [summary_eq_of_build run, low, upper]
      rfl
    have twice := pages_of_build run .kib4
    rw [if_pos (by rfl), shared] at twice
    have twice : summary.smallPages = u.smallLeaves.card + 1 := twice
    have installed : u.smallLeaves.card = 2 := by omega
    refine ⟨summary, record, u, rfl, counted, installed, fun counts => ?_⟩
    have right : summary.smallPages = u.smallLeaves.card := counts.pages .kib4
    omega

end ProtectedBoot.Paging
