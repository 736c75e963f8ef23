import ProtectedBoot.Proofs.Paging.BootSpace

/-!
# What a pool has tables for

The pool is the delicate part of a build. `Confined` is kept while pages of one size are mapped: the
directory holds nothing but what those pages put there, and links only in slots that some range has an
address in. Each table that was taken has such a slot of its own, so an empty slot that asks for a
table finds one as long as there is a table per slot (`WellFormed.used_lt_countP`), and mapping ends
for lack of one only where there is not (`Confined.mapRange`). A page is never in the way, because two
ranges that share an address agree on it.

So each of the two ranges of a boot address space can be mapped unless a table is lacking (`low_ends`,
`upper_ends`).
-/

namespace ProtectedBoot.Paging

open Attempt (Triple)

namespace AddressSpace

variable {n : Nat} {t u : AddressSpace n} {z : PageSize} {va : VirtAddr} {pa : PhysAddr} {f : Flags}
  {wanted : Nat → Bool}

/-! ## Counting tables -/

theorem WellFormed.used_lt_countP (wf : t.WellFormed)
    (inside : ∀ s i, t.Links s i → wanted s.val = true) {s : Slot}
    (empty : (t.dirEntry s).kind = none) (asks : wanted s.val = true) :
    t.used < (List.range slotCount).countP wanted := by
  -- Tables that were taken choose different slots, and none of them chooses the empty one.
  choose slot links using fun i : Fin t.used => wf.taken_linked i i.isLt
  have injective : Function.Injective fun i => (slot i).val := by
    intro i j same
    have := links j
    rw [← Fin.ext same] at this
    exact Fin.ext ((links i).index_unique this)
  have outside : s.val ∉ Finset.univ.image fun i => (slot i).val := by
    rw [Finset.mem_image]
    rintro ⟨i, -, same⟩
    have := links i
    rw [Fin.ext same] at this
    exact this.kind_ne_none empty
  have subset : insert s.val (Finset.univ.image fun i => (slot i).val) ⊆
      ((List.range slotCount).filter wanted).toFinset := by
    intro k hk
    rw [Finset.mem_insert, Finset.mem_image] at hk
    rw [List.mem_toFinset, List.mem_filter, List.mem_range]
    rcases hk with rfl | ⟨i, -, rfl⟩
    · exact ⟨s.isLt, asks⟩
    · exact ⟨(slot i).isLt, inside _ _ (links i)⟩
  have count := Nat.le_trans (Finset.card_le_card subset) (List.toFinset_card_le _)
  rwa [Finset.card_insert_of_notMem outside, Finset.card_image_of_injective _ injective,
    Finset.card_univ, Fintype.card_fin, ← List.countP_eq_length_filter] at count

theorem lt_tableRoom_iff {base : PhysAddr} {i : Nat} :
    i < tableRoom base ↔ base.toNat + 4096 * (i + 1) < 0x100000000 := by
  unfold tableRoom
  omega

/-- Tables that were taken start at addresses. -/
theorem WellFormed.used_le_tableRoom (wf : t.WellFormed) : t.used ≤ tableRoom t.base := by
  rcases taken : t.used with _ | i
  · exact Nat.zero_le _
  · obtain ⟨s, p, -, place⟩ := wf.taken_linked i (by omega)
    have p_lt := p.base.toNat_lt
    exact lt_tableRoom_iff.2 (by omega)

theorem WellFormed.used_le_tableCount (wf : t.WellFormed) : t.used ≤ tableCount n t.base :=
  Nat.le_min.2 ⟨t.used_le, wf.used_le_tableRoom⟩

/-- The first table that starts at no address has none for one reason: the sum is too large. -/
theorem tableAddress_of_tableRoom : t.tableAddress (tableRoom t.base) = .error .addOverflow := by
  have room : tableRoom t.base = (0xFFFFFFFF - t.base.bits.toNat) / 4096 := rfl
  have page : (4096 : Word).toNat = 4096 := rfl
  have base_lt := t.base.bits.isLt
  have number : (BitVec.ofNat 32 (tableRoom t.base)).toNat = tableRoom t.base := by
    rw [BitVec.toNat_ofNat]
    exact Nat.mod_eq_of_lt (by omega)
  unfold tableAddress
  by_cases fits : t.base.bits.toNat + (4096 : Word).toNat < 2 ^ 32
  · obtain ⟨first, first_eq, first_at⟩ := exists_checkedAdd fits
    have product : (BitVec.ofNat 32 (tableRoom t.base)).toNat * (4096 : Word).toNat =
        (BitVec.ofNat 32 (tableRoom t.base * 4096)).toNat := by
      rw [number, page, BitVec.toNat_ofNat, Nat.mod_eq_of_lt (by omega)]
    have beyond : 2 ^ 32 ≤ first.toNat + (BitVec.ofNat 32 (tableRoom t.base * 4096)).toNat := by
      rw [← product, number, page]
      omega
    rw [first_eq, checkedMul_eq_ok_iff.2 product]
    simp only [bind, Except.bind]
    rw [checkedAdd_of_le beyond]
  · rw [checkedAdd_of_le (Nat.le_of_not_lt fits)]
    rfl

/-- The next table starts at no address only if it is the first one. -/
theorem WellFormed.used_eq_tableRoom (wf : t.WellFormed) {c : Fault}
    (no_place : t.tableAddress t.used = .error c) : t.used = tableRoom t.base := by
  apply Nat.le_antisymm wf.used_le_tableRoom
  apply Nat.le_of_not_lt
  intro more
  have fits := lt_tableRoom_iff.1 more
  have place := Address.toNat_ofNat (s := .physical) fits
  rw [(tableAddress_eq_ok_iff (by omega)).2 place] at no_place
  cases no_place

theorem lackOfTable_of_le {base : PhysAddr} (le : n ≤ tableRoom base) :
    lackOfTable n base = .refused (.outOfTables n) :=
  if_neg (Nat.not_lt.2 le)

theorem lackOfTable_of_lt {base : PhysAddr} (lt : tableRoom base < n) :
    lackOfTable n base = .fault .addOverflow :=
  if_pos lt

/-! ## One page -/

/-- The directory holds nothing but what pages of size `z` put there, and links in wanted slots
only. -/
structure Confined (z : PageSize) (wanted : Nat → Bool) (t : AddressSpace n) : Prop where
  sound : t.Sound
  no_leaf : z = .kib4 → ∀ s p, (t.dirEntry s).kind ≠ some (.leaf p)
  no_link : z = .mib4 → ∀ s i, ¬ t.Links s i
  links : ∀ s i, t.Links s i → wanted s.val = true

theorem confined_emptyAt {base : PhysAddr} (aligned : base.isAligned .kib4 = true) :
    (emptyAt n base).Confined z wanted where
  sound := sound_emptyAt aligned
  no_leaf _ s p := by simp
  no_link _ s i links := links.kind_ne_none (by simp)
  links s i links := absurd (by simp) links.kind_ne_none

theorem translate_emptyAt (n : Nat) (base : PhysAddr) (v : VirtAddr) :
    (emptyAt n base).translate v = .ok none :=
  translate_of_empty (by rw [dirEntry_emptyAt, DirEntry.kind_empty])

namespace Confined

theorem linkNext (h : t.Confined .kib4 wanted) {s : Slot} (empty : (t.dirEntry s).kind = none)
    (asks : wanted s.val = true) (free : t.used < n) (user : Bool) {a : PhysAddr}
    (at_next : t.tableAddress t.used = .ok a) :
    (t.linkNext free s user a).Confined .kib4 wanted where
  sound := h.sound.linkNext empty free user at_next
  no_leaf _ r p := by
    rw [dirEntry_linkNext]
    split
    · simp [DirEntry.kind_ofTable]
    · exact h.no_leaf rfl r p
  no_link large := by cases large
  links r i links := by
    rw [h.sound.wellFormed.links_linkNext empty free user at_next] at links
    rcases links with ⟨rfl, -⟩ | ⟨-, old⟩
    · exact asks
    · exact h.links r i old

theorem setTableEntry (h : t.Confined z wanted) {i : Fin n} (taken : i.val < t.used) (s : Slot)
    (e : TableEntry) : (t.setTableEntry i s e).Confined z wanted :=
  ⟨h.sound.setTableEntry taken s e, h.no_leaf, h.no_link, h.links⟩

theorem setPage (h : t.Confined .mib4 wanted) {s : Slot} (empty : (t.dirEntry s).kind = none)
    (f : Flags) (p : PhysPage .mib4) : (t.setDirEntry s (.ofPage f p)).Confined .mib4 wanted := by
  have none_linked (r : Slot) (i : Nat) : ¬ (t.setDirEntry s (.ofPage f p)).Links r i := by
    rintro ⟨q, link, place⟩
    rw [dirEntry_setDirEntry] at link
    split at link
    · rw [DirEntry.kind_ofPage] at link
      cases link
    · exact h.no_link rfl r i ⟨q, link, place⟩
  exact {
    sound := h.sound.setPage empty f p
    no_leaf := fun small => by cases small
    no_link := fun _ => none_linked
    links := fun r i links => absurd links (none_linked r i) }

/-- More slots may be wanted. -/
theorem mono {asked : Nat → Bool} (h : t.Confined z wanted)
    (more : ∀ k, wanted k = true → asked k = true) : t.Confined z asked :=
  ⟨h.sound, h.no_leaf, h.no_link, fun s i links => more _ (h.links s i links)⟩

section Pages

variable (asks : wanted (Slot.inDirectory va).val = true)
  (free : t.translate va = .ok none ∨ t.translate va = .ok (some pa))

include asks free

theorem mapSmall (h : t.Confined .kib4 wanted) (hva : va.isAligned .kib4 = true)
    (hpa : pa.isAligned .kib4 = true) (f : Flags) :
    (∃ u, mapSmall va pa f t = (.ok (), u) ∧ u.Confined .kib4 wanted) ∨
      tableCount n t.base < (List.range slotCount).countP wanted ∧
        ∃ u, mapSmall va pa f t = (.error (lackOfTable n t.base), u) := by
  have wf := h.sound.wellFormed
  have room := wf.used_le_tableRoom
  have course := mapSmall_course wf hva hpa f
  generalize AddressSpace.mapSmall va pa f t = outcome at course ⊢
  cases course with
  | covered q leaf => exact absurd leaf (h.no_leaf rfl _ q)
  | exhausted empty full =>
    have short := wf.used_lt_countP h.links empty asks
    have few : tableCount n t.base ≤ n := Nat.min_le_left _ _
    rw [lackOfTable_of_le (by omega)]
    exact .inr ⟨by omega, t, rfl⟩
  | unplaced empty more c no_place =>
    have short := wf.used_lt_countP h.links empty asks
    have few : tableCount n t.base ≤ tableRoom t.base := Nat.min_le_right _ _
    have last := wf.used_eq_tableRoom no_place
    rw [last, tableAddress_of_tableRoom] at no_place
    cases no_place
    rw [lackOfTable_of_lt (last ▸ more)]
    exact .inr ⟨by omega, _, rfl⟩
  | opened empty more a place =>
    exact .inl ⟨_, rfl,
      (h.linkNext empty asks more f.user place).setTableEntry (Nat.lt_succ_self _) _ _⟩
  | occupied i links q entry other =>
    rw [translate_of_links (wf.lt_used_of_links links) links, entry] at free
    rcases free with free | same
    · cases free
    · exact absurd (eq_containing_of_locate hva hpa (by simpa using same)) other
  | present => exact .inl ⟨_, rfl, h⟩
  | entered i links => exact .inl ⟨_, rfl, h.setTableEntry (wf.lt_used_of_links links) _ _⟩

omit asks in
theorem mapLarge (h : t.Confined .mib4 wanted) (hva : va.isAligned .mib4 = true)
    (hpa : pa.isAligned .mib4 = true) (f : Flags) :
    ∃ u, mapLarge va pa f t = (.ok (), u) ∧ u.Confined .mib4 wanted := by
  have course := mapLarge_course t hva hpa f
  generalize AddressSpace.mapLarge va pa f t = outcome at course ⊢
  cases course with
  | linked q link =>
    obtain ⟨i, -, links⟩ := h.sound.wellFormed.link_taken _ q link
    exact absurd links (h.no_link rfl _ i)
  | occupied q leaf other =>
    rw [translate_of_leaf leaf] at free
    rcases free with free | same
    · cases free
    · exact absurd (eq_containing_of_locate hva hpa (by simpa using same)) other
  | present => exact ⟨_, rfl, h⟩
  | entered empty => exact ⟨_, rfl, h.setPage empty f _⟩

/-- **A page that is free, or mapped as asked, can be mapped**, unless a table for it is lacking, which
happens only if there are fewer tables than wanted slots. -/
theorem mapPage (h : t.Confined z wanted) (hva : va.isAligned z = true) (hpa : pa.isAligned z = true)
    (f : Flags) :
    (∃ u, mapPage z va pa f t = (.ok (), u) ∧ u.Confined z wanted) ∨
      z = .kib4 ∧ tableCount n t.base < (List.range slotCount).countP wanted ∧
        ∃ u, mapPage z va pa f t = (.error (lackOfTable n t.base), u) := by
  cases z with
  | kib4 =>
    rcases h.mapSmall asks free hva hpa f with done | lacking
    · exact .inl done
    · exact .inr ⟨rfl, lacking⟩
  | mib4 => exact .inl (h.mapLarge free hva hpa f)

end Pages

end Confined

/-! ## A range -/

theorem fits_of_le {s : Space} {a : Address s} {len : Word}
    (h : a.toNat + len.toNat ≤ 0x100000000) : fits a len = true := by
  rw [fits, Bool.or_eq_true, beq_iff_eq, or_iff_not_imp_left]
  intro pos
  have pos : len.toNat ≠ 0 := fun zero => pos (BitVec.eq_of_toNat_eq zero)
  have one : (1 : Word).toNat = 1 := rfl
  have last : (len - 1).toNat = len.toNat - 1 := by
    rw [BitVec.toNat_sub_of_le (BitVec.le_def.2 (by omega)), one]
  have reach : a.add? (len - 1) = some (.ofNat (a.toNat + (len.toNat - 1))) := by
    rw [Address.add?_eq_some_iff, last, Address.toNat_ofNat (by omega)]
  rw [reach]
  rfl

/-- A range of whole pages in its spaces is mapped page by page. -/
theorem mapRange_eq_mapPages {len : Word} (whole : z.bytes.toNat ∣ len.toNat)
    (virt_fits : va.toNat + len.toNat ≤ 0x100000000)
    (phys_fits : pa.toNat + len.toNat ≤ 0x100000000) (f : Flags) :
    (mapRange z va pa len f : Edit n Nat) = mapPages z va pa f (len.toNat / z.bytes.toNat) 0 := by
  have aligned := (isAligned_iff_dvd z.bytes_isPowerOfTwo).2 whole
  rw [← mapFrom_zero va pa f whole]
  simp [mapRange, aligned, fits_of_le virt_fits, fits_of_le phys_fits]

/-- **A range whose pages are free, or mapped as asked, can be mapped**, unless a table is lacking. -/
theorem Confined.mapRange (h : t.Confined z wanted) {len : Word} (whole : z.bytes.toNat ∣ len.toNat)
    (virt_fits : va.toNat + len.toNat ≤ 0x100000000)
    (phys_fits : pa.toNat + len.toNat ≤ 0x100000000)
    (aligned : len.toNat ≠ 0 → va.isAligned z = true ∧ pa.isAligned z = true)
    (asks : ∀ v : VirtAddr, va.toNat ≤ v.toNat → v.toNat < va.toNat + len.toNat →
      wanted (Slot.inDirectory v).val = true)
    (free : ∀ v : VirtAddr, va.toNat ≤ v.toNat → v.toNat < va.toNat + len.toNat →
      t.translate v = .ok none ∨ t.translate v = .ok (some ⟨pa.bits + (v.bits - va.bits)⟩))
    (f : Flags) :
    (∃ k u, mapRange z va pa len f t = (.ok k, u) ∧ u.Confined z wanted ∧
      t.Ranged va pa len.toNat u) ∨
      z = .kib4 ∧ tableCount n t.base < (List.range slotCount).countP wanted ∧
        ∃ u, mapRange z va pa len f t = (.error (lackOfTable n t.base), u) := by
  have total : len.toNat / z.bytes.toNat * z.bytes.toNat = len.toNat := Nat.div_mul_cancel whole
  have loop : Triple (fun s => s.Confined z wanted ∧ t.Ranged va pa (0 * z.bytes.toNat) s)
      (mapPages z va pa f (len.toNat / z.bytes.toNat) 0)
      (fun k s => k = len.toNat / z.bytes.toNat ∧
        s.Confined z wanted ∧ t.Ranged va pa (len.toNat / z.bytes.toNat * z.bytes.toNat) s)
      (fun e _ => z = .kib4 ∧ tableCount n t.base < (List.range slotCount).countP wanted ∧
        e = lackOfTable n t.base) := by
    refine mapPages_triple
      (I := fun k s => s.Confined z wanted ∧ t.Ranged va pa (k * z.bytes.toNat) s)
      (by rwa [total]) (by rwa [total]) ?_ _ 0 (Nat.zero_add _)
    rintro k hk v p v_at p_at s ⟨confined, ranged⟩
    have inside : (k + 1) * z.bytes.toNat ≤ len.toNat := by
      rw [← total]
      exact Nat.mul_le_mul_right _ hk
    have page_pos := z.bytes_pos
    rw [Nat.succ_mul] at inside
    obtain ⟨hva, hpa⟩ := aligned (by omega)
    have starts {r : Space} {a b : Address r} (ha : a.isAligned z = true)
        (b_at : b.toNat = a.toNat + k * z.bytes.toNat) : b.isAligned z = true := by
      rw [Address.isAligned_iff_mod] at ha ⊢
      rw [b_at, Nat.add_mul_mod_self_right, ha]
    -- The page lies behind those that were mapped, so it is as free as it was at the start.
    have still_free := free v (by omega) (by omega)
    rw [← ranged.outside v (by omega)] at still_free
    have at_frame : (⟨pa.bits + (v.bits - va.bits)⟩ : PhysAddr) = p := by
      refine congrArg Address.mk ?_
      rw [bits_of_toNat_add v_at, bits_of_toNat_add p_at]
      grind
    rw [at_frame] at still_free
    rcases confined.mapPage (asks v (by omega) (by omega)) still_free (starts hva v_at)
      (starts hpa p_at) f with ⟨s', run, confined'⟩ | ⟨small, short, s', run⟩
    · rw [run]
      exact ⟨confined', ranged.next v_at p_at run⟩
    · rw [run, ← ranged.keeps.base]
      exact ⟨small, short, rfl⟩
  have start : t.Ranged va pa (0 * z.bytes.toNat) t := by
    rw [Nat.zero_mul]
    exact Ranged.start h.sound
  rw [mapRange_eq_mapPages whole virt_fits phys_fits]
  rcases loop.ends ⟨h, start⟩ with ⟨k, u, run, -, confined, ranged⟩ | ⟨e, u, run, small, short, rfl⟩
  · exact .inl ⟨k, u, run, confined, total ▸ ranged⟩
  · exact .inr ⟨small, short, u, run⟩

end AddressSpace

open AddressSpace

/-! ## The numbers of a configuration -/

/-- Rounding up to pages yields a word as soon as the rounded number is one. -/
theorem exists_alignUp? (z : PageSize) {v : Word}
    (fits : (v.toNat + (z.bytes.toNat - 1)) / z.bytes.toNat * z.bytes.toNat < 0x100000000) :
    ∃ r, alignUp? v z.bytes = some r ∧
      r.toNat = (v.toNat + (z.bytes.toNat - 1)) / z.bytes.toNat * z.bytes.toNat := by
  rcases rounded : alignUp? v z.bytes with _ | r
  · rw [alignUp?_eq_none_iff z.bytes_isPowerOfTwo] at rounded
    -- The end of the address space is a multiple of either size.
    have room := add_le_of_dvd (Nat.dvd_mul_left ..) (dvd_end z.bytes_isPowerOfTwo) fits
    have close := Nat.lt_div_mul_add (a := v.toNat + (z.bytes.toNat - 1)) z.bytes_pos
    omega
  · refine ⟨r, rfl, ?_⟩
    rw [((alignUp?_eq_some_iff z.bytes_isPowerOfTwo).1 rounded).2]
    exact Nat.div_mul_self_eq_mod_sub_self.symm

namespace PagingConfig

variable {c : PagingConfig}

theorem exists_identityEnd (low_lt : c.lowStop < 0x100000000) :
    ∃ identity, c.identityEnd = .ok identity ∧ identity.toNat = c.lowStop := by
  obtain ⟨e, rounded, at_e⟩ := exists_alignUp? c.pageSize low_lt
  exact ⟨e, by rw [identityEnd, rounded], at_e⟩

theorem exists_virtRange (image_lt : c.imageStop < 0x100000000)
    (first_lt : c.upperFirst < 0x100000000) (stop_lt : c.upperStop < 0x100000000) :
    ∃ vs ve, c.virtRange = .ok (vs, ve) ∧ vs.toNat = c.upperFirst ∧ ve.toNat = c.upperStop := by
  obtain ⟨e, rounded, at_e⟩ := exists_alignUp? c.pageSize image_lt
  have first_at := Address.toNat_ofNat (s := .virtual) first_lt
  have stop_at := Address.toNat_ofNat (s := .virtual) stop_lt
  have first : add? c.imageStart.bits c.virtOffset = some (Address.ofNat c.upperFirst : VirtAddr).bits :=
    add?_eq_some_iff.2 ((congrArg (· + _) c.toNat_imageStart).trans first_at.symm)
  have stop : add? e c.virtOffset = some (Address.ofNat c.upperStop : VirtAddr).bits :=
    add?_eq_some_iff.2 ((congrArg (· + _) at_e).trans stop_at.symm)
  refine ⟨.ofNat c.upperFirst, .ofNat c.upperStop, ?_, first_at, stop_at⟩
  simp only [virtRange, rounded, first, stop]

theorem dvd_imageFirst (c : PagingConfig) : c.pageSize.bytes.toNat ∣ c.imageFirst :=
  Nat.dvd_mul_left ..

theorem dvd_imageStop (c : PagingConfig) : c.pageSize.bytes.toNat ∣ c.imageStop :=
  Nat.dvd_mul_left ..

theorem dvd_lowStop (c : PagingConfig) : c.pageSize.bytes.toNat ∣ c.lowStop :=
  Nat.dvd_mul_left ..

/-- The slots that the two ranges have addresses in. -/
def wants (c : PagingConfig) (slot : Nat) : Bool :=
  touches 0 c.lowStop slot || touches c.upperFirst c.upperStop slot

theorem wants_of_touches_low {slot : Nat} (touched : touches 0 c.lowStop slot = true) :
    c.wants slot = true := by
  rw [wants, touched, Bool.true_or]

theorem lowSlots_le_slotsTouched (c : PagingConfig) : c.lowSlots ≤ c.slotsTouched :=
  List.countP_mono_left fun _ _ => c.wants_of_touches_low

theorem wants_of_upper {v : VirtAddr} (le : c.upperFirst ≤ v.toNat) (lt : v.toNat < c.upperStop) :
    c.wants (Slot.inDirectory v).val = true := by
  rw [wants, Bool.or_eq_true]
  exact .inr (touches_iff.2 ⟨v.toNat, le, lt, (Slot.inDirectory_val v).symm⟩)

theorem imageFirst_le_imageStop (ordered : c.kernelStart.toNat ≤ c.kernelEnd.toNat) :
    c.imageFirst ≤ c.imageStop := by
  rw [imageFirst, imageStop, pageBytes]
  cases c.pageSize <;> simp only [PageSize.toNat_bytes_kib4, PageSize.toNat_bytes_mib4] <;> omega

end PagingConfig

/-! ## The two ranges -/

section Ranges

variable {n : Nat} {base : PhysAddr} {c : PagingConfig}

/-- What is left behind when low memory was mapped. -/
structure LowMapped (c : PagingConfig) (base : PhysAddr) (lower : AddressSpace n) : Prop where
  confined : lower.Confined c.pageSize c.wants
  ranged : (emptyAt n base).Ranged .zero .zero c.lowStop lower

/-- **Low memory can be mapped**, unless a table is lacking for it. -/
theorem low_ends (n : Nat) (base_aligned : base.isAligned .kib4 = true)
    (low_lt : c.lowStop < 0x100000000) :
    ∃ identity, c.identityEnd = .ok identity ∧
      ((∃ low lower, mapRange c.pageSize .zero .zero identity .kernel (emptyAt n base) =
          (.ok low, lower) ∧ LowMapped c base lower) ∨
        c.pageSize = .kib4 ∧ tableCount n base < c.lowSlots ∧
          ∃ u, mapRange c.pageSize .zero .zero identity .kernel (emptyAt n base) =
            (.error (lackOfTable n base), u)) := by
  obtain ⟨identity, identity_eq, identity_at⟩ := c.exists_identityEnd low_lt
  have zero_at {s : Space} : (Address.zero : Address s).toNat = 0 := rfl
  have zero_aligned {s : Space} : (Address.zero : Address s).isAligned c.pageSize = true :=
    Address.isAligned_iff_mod.2 (Nat.zero_mod _)
  have reach {s : Space} : (Address.zero : Address s).toNat + identity.toNat ≤ 0x100000000 := by
    rw [zero_at]
    omega
  have start : (emptyAt n base).Confined c.pageSize (touches 0 c.lowStop) :=
    confined_emptyAt base_aligned
  have asks (v : VirtAddr) (_ : (Address.zero : VirtAddr).toNat ≤ v.toNat)
      (lt : v.toNat < (Address.zero : VirtAddr).toNat + identity.toNat) :
      touches 0 c.lowStop (Slot.inDirectory v).val = true := by
    rw [zero_at, Nat.zero_add, identity_at] at lt
    exact touches_iff.2 ⟨v.toNat, Nat.zero_le _, lt, (Slot.inDirectory_val v).symm⟩
  refine ⟨identity, identity_eq, ?_⟩
  rcases start.mapRange (identity_at ▸ c.dvd_lowStop) reach reach
    (fun _ => ⟨zero_aligned, zero_aligned⟩) asks (fun v _ _ => .inl (translate_emptyAt n base v))
    .kernel with ⟨low, lower, run, confined, ranged⟩ | lacking
  · left
    rw [identity_at] at ranged
    exact ⟨low, lower, run, confined.mono fun k => c.wants_of_touches_low, ranged⟩
  · exact .inr lacking

section Upper

variable {lower : AddressSpace n} {vs v : VirtAddr} {len : Word} (low : LowMapped c base lower)
  (vs_at : vs.toNat = c.upperFirst)

include low vs_at

/-- Where the ranges do not disagree, low memory leaves the upper mapping free, or has mapped it as
asked. -/
theorem upper_free
    (consistent : c.virtOffset = 0 ∨ ∀ a, a < c.lowStop → ¬ (c.upperFirst ≤ a ∧ a < c.upperStop))
    (le : c.upperFirst ≤ v.toNat) (lt : v.toNat < c.upperStop) :
    lower.translate v = .ok none ∨
      lower.translate v = .ok (some ⟨c.imageStart.bits + (v.bits - vs.bits)⟩) := by
  have zero_at : (Address.zero : VirtAddr).toNat = 0 := rfl
  by_cases below : v.toNat < c.lowStop
  · right
    -- Both ranges map the address, so the distance between them is zero.
    have no_offset : c.virtOffset = 0 := consistent.resolve_right fun apart => apart _ below ⟨le, lt⟩
    have same : vs.bits = c.imageStart.bits := by
      refine BitVec.eq_of_toNat_eq (vs_at.trans ?_)
      rw [PagingConfig.upperFirst, no_offset, ← c.toNat_imageStart]
      rfl
    rw [low.ranged.inside v (Nat.zero_le _) (by omega), same]
    congr 3
    simp only [Address.zero]
    grind
  · left
    rw [low.ranged.outside v (by omega), translate_emptyAt]

variable (len_at : c.imageFirst + len.toNat = c.imageStop) (upper_stop_lt : c.upperStop < 0x100000000)

omit low in
include len_at upper_stop_lt in
/-- Where the upper mapping ends and where the image does, and that both consist of pages. -/
theorem upper_reach : vs.toNat + len.toNat = c.upperStop ∧
    c.imageStart.toNat + len.toNat ≤ 0x100000000 ∧ c.pageSize.bytes.toNat ∣ len.toNat := by
  have first_eq := c.upperFirst_eq
  have stop_eq := c.upperStop_eq
  have start_at := c.toNat_imageStart
  have length : len.toNat = c.imageStop - c.imageFirst := by omega
  exact ⟨by omega, by omega, length ▸ Nat.dvd_sub c.dvd_imageStop c.dvd_imageFirst⟩

include len_at in
/-- **An upper mapping that fits can be mapped** on top of low memory, unless a table is lacking. -/
theorem upper_ends (fits : c.UpperFits) :
    (∃ high u, mapRange c.pageSize vs c.imageStart len .kernel lower = (.ok high, u)) ∨
      c.pageSize = .kib4 ∧ tableCount n base < c.slotsTouched ∧
        ∃ u, mapRange c.pageSize vs c.imageStart len .kernel lower =
          (.error (lackOfTable n base), u) := by
  obtain ⟨virt_stop, phys_fits, whole⟩ := upper_reach vs_at len_at fits.upper_stop_lt
  have first_eq := c.upperFirst_eq
  have stop_lt := fits.upper_stop_lt
  have start_at := c.toNat_imageStart
  have aligned (some_page : len.toNat ≠ 0) :
      vs.isAligned c.pageSize = true ∧ c.imageStart.isAligned c.pageSize = true := by
    have offset_whole : c.pageSize.bytes.toNat ∣ c.virtOffset.toNat :=
      fits.offset_whole.resolve_left (by omega)
    rw [Address.isAligned_iff_mod, Address.isAligned_iff_mod, vs_at, start_at]
    exact ⟨Nat.mod_eq_zero_of_dvd (Nat.dvd_add c.dvd_imageFirst offset_whole),
      Nat.mod_eq_zero_of_dvd c.dvd_imageFirst⟩
  have asks (v : VirtAddr) (le : vs.toNat ≤ v.toNat) (lt : v.toNat < vs.toNat + len.toNat) :
      c.wants (Slot.inDirectory v).val = true :=
    c.wants_of_upper (vs_at ▸ le) (virt_stop ▸ lt)
  have free (v : VirtAddr) (le : vs.toNat ≤ v.toNat) (lt : v.toNat < vs.toNat + len.toNat) :=
    upper_free low vs_at fits.consistent (vs_at ▸ le) (virt_stop ▸ lt)
  rcases low.confined.mapRange whole (by omega) phys_fits aligned asks free .kernel with
    ⟨high, u, run, -, -⟩ | lacking
  · exact .inl ⟨high, u, run⟩
  · right
    rwa [show lower.base = base from low.ranged.keeps.base] at lacking

end Upper

end Ranges

end ProtectedBoot.Paging
