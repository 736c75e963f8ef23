import ProtectedBoot.Paging.History
import ProtectedBoot.Proofs.Paging.Pool
import ProtectedBoot.Proofs.Triple

/-!
# How mapping requests go

`SmallCourse` and `LargeCourse` list the ways in which a request for one page can go, each with its
outcome and the address space that it leaves. Whatever is proved about mapping one page is proved
case by case along these lists, and nothing else looks into the mapper.

The loop over a range counts bytes in words, with a step that may break. When the range is a whole
number of pages, it is the recursion `mapPages` over that number (`mapFrom_eq_mapPages`), and no
other lemma looks into the loop. So a range is mapped page by page (`mapRange_triple`), and a request
of any kind does nothing but move the block, map pages and compute (`perform_triple`): what mapping
one page keeps, every request keeps.
-/

namespace ProtectedBoot.Paging

open Attempt (Triple)

namespace AddressSpace

variable {n : Nat} {t : AddressSpace n}

/-! ## Moving the block -/

/-- The address space without a mapping, at `base`. -/
def emptyAt (n : Nat) (base : PhysAddr) : AddressSpace n := { empty n with base }

theorem reset_of_aligned {base : PhysAddr} (h : base.isAligned .kib4 = true)
    (t : AddressSpace n) : reset base t = (.ok (), emptyAt n base) := by
  simp only [reset, Attempt.bind_apply, requireAligned, if_pos h, Attempt.update, emptyAt]

theorem reset_of_misaligned {base : PhysAddr} (h : ¬ base.isAligned .kib4 = true)
    (t : AddressSpace n) :
    reset base t = (.error (.refused (.misaligned base.bits 4096)), t) := by
  simp only [reset, Attempt.bind_apply, requireAligned, if_neg h, PageSize.bytes]

/-! ## One small page -/

/-- How a request for an aligned page of 4 KiB goes. -/
inductive SmallCourse (t : AddressSpace n) (va : VirtAddr) (pa : PhysAddr) (f : Flags) :
    Except (Stop PagingError) Unit × AddressSpace n → Prop where
  /-- A large page covers the address. -/
  | covered (q : PhysPage .mib4) (leaf : (t.dirEntry (.inDirectory va)).kind = some (.leaf q)) :
    SmallCourse t va pa f (.error (.refused (.conflictingLargePage va)), t)
  /-- The slot has no table, and the pool has none left. -/
  | exhausted (empty : (t.dirEntry (.inDirectory va)).kind = none) (full : t.used = n) :
    SmallCourse t va pa f (.error (.refused (.outOfTables n)), t)
  /-- The slot has no table, and the next one lies past the end of memory. -/
  | unplaced (empty : (t.dirEntry (.inDirectory va)).kind = none) (free : t.used < n) (c : Fault)
      (no_place : t.tableAddress t.used = .error c) :
    SmallCourse t va pa f (.error (.fault c), { t with used := t.used + 1, used_le := free })
  /-- The slot is given a table, and the page is entered there. -/
  | opened (empty : (t.dirEntry (.inDirectory va)).kind = none) (free : t.used < n) (a : PhysAddr)
      (at_next : t.tableAddress t.used = .ok a) :
    SmallCourse t va pa f (.ok (), (t.linkNext free (.inDirectory va) f.user a).setTableEntry
      ⟨t.used, free⟩ (.inTable va) (.ofPage f (.containing pa)))
  /-- The page is mapped to another frame. -/
  | occupied (i : Fin n) (links : t.Links (.inDirectory va) i) (q : PhysPage .kib4)
      (entry : (t.tableEntry i (.inTable va)).page? = some q) (other : q ≠ .containing pa) :
    SmallCourse t va pa f (.error (.refused (.alreadyMapped va q.base)), t)
  /-- The page is mapped to this frame already. -/
  | present (i : Fin n) (links : t.Links (.inDirectory va) i)
      (entry : (t.tableEntry i (.inTable va)).page? = some (.containing pa)) :
    SmallCourse t va pa f (.ok (), t)
  /-- The page is entered into the table that the slot has. -/
  | entered (i : Fin n) (links : t.Links (.inDirectory va) i)
      (blank : (t.tableEntry i (.inTable va)).page? = none) :
    SmallCourse t va pa f (.ok (),
      t.setTableEntry i (.inTable va) (.ofPage f (.containing pa)))

/-- A request for a page that does not start at its address, or at its frame, is refused. -/
theorem mapPage_of_misaligned {z : PageSize} {va : VirtAddr} {pa : PhysAddr}
    (h : ¬ (va.isAligned z = true ∧ pa.isAligned z = true)) (f : Flags) (t : AddressSpace n) :
    mapPage z va pa f t =
      (.error (.refused (.misaligned (if va.isAligned z then pa.bits else va.bits) z.bytes)), t) := by
  by_cases hva : va.isAligned z = true
  · have hpa : pa.isAligned z = false := by simpa [hva] using h
    cases z <;> simp [mapPage, mapSmall, mapLarge, Attempt.bind_apply, requireAligned, hva, hpa]
  · cases z <;> simp [mapPage, mapSmall, mapLarge, Attempt.bind_apply, requireAligned, hva]

/-- **How a small page is mapped.** -/
theorem mapSmall_course (wf : t.WellFormed) {va : VirtAddr} {pa : PhysAddr}
    (hva : va.isAligned .kib4 = true) (hpa : pa.isAligned .kib4 = true) (f : Flags) :
    SmallCourse t va pa f (mapSmall va pa f t) := by
  have run : mapSmall va pa f t =
      (tableFor va f.user >>= fun i => enterPage i va (.containing pa) f : Edit n Unit) t := by
    simp [mapSmall, Attempt.bind_apply, requireAligned, hva, hpa]
  rw [run, Attempt.bind_apply, tableFor]
  rcases kind : (t.dirEntry (.inDirectory va)).kind with _ | q | q
  · by_cases free : t.used < n
    · simp only [takeTable, dif_pos free]
      rcases place : t.tableAddress t.used with c | a
      · exact .unplaced kind free c place
      · -- A table fresh from the pool has no entry that could be in the way.
        have blank : ((t.linkNext free (.inDirectory va) f.user a).tableEntry ⟨t.used, free⟩
            (.inTable va)).page? = none := by
          rw [tableEntry_linkNext, wf.tableEntry_eq_empty (Nat.le_refl _), TableEntry.page?_empty]
        have entered : SmallCourse t va pa f _ := .opened kind free a place
        simp only [enterPage]
        rw [linkNext] at blank
        simp only [blank]
        exact entered
    · have full : t.used = n := Nat.le_antisymm t.used_le (Nat.not_lt.1 free)
      simp only [takeTable, dif_neg free]
      exact .exhausted kind full
  · obtain ⟨i, hi, found, place⟩ := wf.tableIn_eq_of_link kind
    have links : t.Links (.inDirectory va) i := ⟨q, kind, place⟩
    simp only [found, enterPage]
    rcases entry : (t.tableEntry i (.inTable va)).page? with _ | current
    · exact .entered i links entry
    · by_cases same : current = .containing pa
      · subst same
        simp only [if_true]
        exact .present i links entry
      · simp only [if_neg same]
        exact .occupied i links current entry same
  · exact .covered q kind

/-! ## One large page -/

/-- How a request for an aligned page of 4 MiB goes. -/
inductive LargeCourse (t : AddressSpace n) (va : VirtAddr) (pa : PhysAddr) (f : Flags) :
    Except (Stop PagingError) Unit × AddressSpace n → Prop where
  /-- The slot has a table. -/
  | linked (q : PhysPage .kib4) (link : (t.dirEntry (.inDirectory va)).kind = some (.link q)) :
    LargeCourse t va pa f (.error (.refused (.conflictingLargePage va)), t)
  /-- The page is mapped to another frame. -/
  | occupied (q : PhysPage .mib4) (leaf : (t.dirEntry (.inDirectory va)).kind = some (.leaf q))
      (other : q ≠ .containing pa) :
    LargeCourse t va pa f (.error (.refused (.alreadyMapped va q.base)), t)
  /-- The page is mapped to this frame already. -/
  | present (leaf : (t.dirEntry (.inDirectory va)).kind = some (.leaf (.containing pa))) :
    LargeCourse t va pa f (.ok (), t)
  /-- The page is entered into the slot. -/
  | entered (empty : (t.dirEntry (.inDirectory va)).kind = none) :
    LargeCourse t va pa f (.ok (), t.setDirEntry (.inDirectory va) (.ofPage f (.containing pa)))

/-- **How a large page is mapped.** -/
theorem mapLarge_course (t : AddressSpace n) {va : VirtAddr} {pa : PhysAddr}
    (hva : va.isAligned .mib4 = true) (hpa : pa.isAligned .mib4 = true) (f : Flags) :
    LargeCourse t va pa f (mapLarge va pa f t) := by
  have run : mapLarge va pa f t = (enterLargePage va (.containing pa) f : Edit n Unit) t := by
    simp [mapLarge, Attempt.bind_apply, requireAligned, hva, hpa]
  rw [run, enterLargePage]
  rcases kind : (t.dirEntry (.inDirectory va)).kind with _ | q | q
  · exact .entered kind
  · exact .linked q kind
  · by_cases same : q = .containing pa
    · subst same
      simp only [if_true]
      exact .present kind
    · simp only [if_neg same]
      exact .occupied q kind same

/-! ## Ranges -/

section Ranges

variable {z : PageSize} {va : VirtAddr} {pa : PhysAddr} {len : Word} {f : Flags}
  {I : Nat → AddressSpace n → Prop} {E : Stop PagingError → AddressSpace n → Prop}

/-- Map `remaining` more pages of a range of which `done` pages are mapped; the answer is how many
are mapped in the end. -/
def mapPages (z : PageSize) (va : VirtAddr) (pa : PhysAddr) (f : Flags) :
    (remaining done : Nat) → Edit n Nat
  | 0, done => pure done
  | remaining + 1, done => do
    let distance := BitVec.ofNat 32 (done * z.bytes.toNat)
    let v ← Attempt.ofFaulting (va.add distance)
    let p ← Attempt.ofFaulting (pa.add distance)
    mapPage z v p f
    mapPages z va pa f remaining (done + 1)

/-- The loop ends where the offset has reached the length. -/
theorem mapFrom_of_le {offset pages : Word} (at_end : len.toNat ≤ offset.toNat) :
    (mapFrom z va pa len f offset pages : Edit n Nat) = pure pages.toNat := by
  have ended : ¬ offset < len := by
    rw [BitVec.lt_def]
    exact Nat.not_lt.2 at_end
  rw [mapFrom, if_neg ended]

/-- One turn of the loop, if neither the offset nor the count overflows. -/
theorem mapFrom_of_lt {offset next pages counted : Word} (inside : offset.toNat < len.toNat)
    (next_at : offset.toNat + z.bytes.toNat = next.toNat)
    (counted_at : pages.toNat + 1 = counted.toNat) :
    (mapFrom z va pa len f offset pages : Edit n Nat) = (do
      let v ← Attempt.ofFaulting (va.add offset)
      let p ← Attempt.ofFaulting (pa.add offset)
      mapPage z v p f
      mapFrom z va pa len f next counted) := by
  have enters : offset < len := BitVec.lt_def.2 inside
  have count : checkedAdd pages 1 = .ok counted := checkedAdd_eq_ok_iff.2 counted_at
  have steps := ProtectedBoot.add?_eq_some_iff.2 next_at
  rw [mapFrom, if_pos enters, count]
  simp only [Attempt.ofFaulting_ok_bind]
  split
  case h_1 reached step =>
    rw [steps] at step
    cases step
    rfl
  case h_2 step =>
    rw [steps] at step
    cases step

/-- **The loop maps page after page.** At every turn the offset is a whole number of pages, and the
count is that number. So neither overflows: the loop ends where the offset reaches the length, and
never by the break. -/
theorem mapFrom_eq_mapPages (va : VirtAddr) (pa : PhysAddr) (f : Flags) {remaining done : Nat}
    (all : (done + remaining) * z.bytes.toNat = len.toNat) :
    (mapFrom z va pa len f (.ofNat 32 (done * z.bytes.toNat)) (.ofNat 32 done) : Edit n Nat) =
      mapPages z va pa f remaining done := by
  have len_lt := len.isLt
  have kept {x : Nat} (le : x ≤ len.toNat) : (BitVec.ofNat 32 x).toNat = x := by
    rw [BitVec.toNat_ofNat, Nat.mod_eq_of_lt (by omega)]
  have counts (k : Nat) : k ≤ k * z.bytes.toNat := Nat.le_mul_of_pos_right k z.bytes_pos
  have done_le : done * z.bytes.toNat ≤ len.toNat := by
    rw [← all]
    exact Nat.mul_le_mul_right _ (Nat.le_add_right done remaining)
  have offset_at := kept done_le
  have pages_at := kept (Nat.le_trans (counts done) done_le)
  induction remaining generalizing done with
  | zero => rw [mapFrom_of_le (by rw [offset_at, ← all, Nat.add_zero]), pages_at, mapPages]
  | succ remaining ih =>
    have page_pos := z.bytes_pos
    -- The next offset is the length at most, and so a word: the step never breaks.
    have next_le : (done + 1) * z.bytes.toNat ≤ len.toNat := by
      rw [← all]
      exact Nat.mul_le_mul_right _ (by omega)
    have next_at := kept next_le
    have counted_at := kept (Nat.le_trans (counts (done + 1)) next_le)
    have next_sum := Nat.add_one_mul done z.bytes.toNat
    have inside : (BitVec.ofNat 32 (done * z.bytes.toNat)).toNat < len.toNat := by omega
    have steps : (BitVec.ofNat 32 (done * z.bytes.toNat)).toNat + z.bytes.toNat =
        (BitVec.ofNat 32 ((done + 1) * z.bytes.toNat)).toNat := by omega
    have count : (BitVec.ofNat 32 done).toNat + 1 = (BitVec.ofNat 32 (done + 1)).toNat := by
      rw [pages_at, counted_at]
    rw [mapFrom_of_lt inside steps count, mapPages,
      ih (by rw [← all, Nat.add_assoc, Nat.add_comm 1]) next_le next_at counted_at]

/-- The loop over a whole number of pages. -/
theorem mapFrom_zero (va : VirtAddr) (pa : PhysAddr) (f : Flags)
    (whole : z.bytes.toNat ∣ len.toNat) :
    (mapFrom z va pa len f 0 0 : Edit n Nat) =
      mapPages z va pa f (len.toNat / z.bytes.toNat) 0 := by
  rw [← mapFrom_eq_mapPages va pa f (by rw [Nat.zero_add, Nat.div_mul_cancel whole]), Nat.zero_mul]
  rfl

/-- A page of the range, and then the pages after it: neither of its addresses lies past the end of
its space. -/
theorem mapPages_succ (f : Flags) (remaining : Nat) {done : Nat}
    (virt_fits : va.toNat + (done + 1) * z.bytes.toNat ≤ 0x100000000)
    (phys_fits : pa.toNat + (done + 1) * z.bytes.toNat ≤ 0x100000000) :
    ∃ v p, v.toNat = va.toNat + done * z.bytes.toNat ∧ p.toNat = pa.toNat + done * z.bytes.toNat ∧
      (mapPages z va pa f (remaining + 1) done : Edit n Nat) =
        (mapPage z v p f >>= fun _ => mapPages z va pa f remaining (done + 1)) := by
  have page_pos := z.bytes_pos
  rw [Nat.succ_mul] at virt_fits phys_fits
  obtain ⟨v, hv, v_at⟩ := Address.exists_add (a := va) (d := done * z.bytes.toNat) (by omega)
  obtain ⟨p, hp, p_at⟩ := Address.exists_add (a := pa) (d := done * z.bytes.toNat) (by omega)
  refine ⟨v, p, v_at, p_at, ?_⟩
  simp only [mapPages, hv, hp, Attempt.ofFaulting_ok_bind]

/-- **The loop over the pages of a range.** If mapping page `k` leads from `I k` to `I (k + 1)`, the
loop leads from the invariant at its start to that at its end. -/
theorem mapPages_triple {total : Nat}
    (virt_fits : va.toNat + total * z.bytes.toNat ≤ 0x100000000)
    (phys_fits : pa.toNat + total * z.bytes.toNat ≤ 0x100000000)
    (step : ∀ k < total, ∀ v p, v.toNat = va.toNat + k * z.bytes.toNat →
      p.toNat = pa.toNat + k * z.bytes.toNat →
      Triple (I k) (mapPage z v p f) (fun _ => I (k + 1)) E) :
    ∀ remaining done, done + remaining = total →
      Triple (I done) (mapPages z va pa f remaining done) (fun k t => k = total ∧ I total t) E := by
  -- The pages that are done and those that remain make up the range all along.
  intro remaining
  induction remaining with
  | zero =>
    intro done all
    obtain rfl : done = total := all
    exact Triple.pure fun t h => ⟨rfl, h⟩
  | succ remaining ih =>
    intro done all
    have inside : (done + 1) * z.bytes.toNat ≤ total * z.bytes.toNat :=
      Nat.mul_le_mul_right _ (by omega)
    obtain ⟨v, p, v_at, p_at, run⟩ := mapPages_succ f remaining
      (Nat.le_trans (Nat.add_le_add_left inside _) virt_fits)
      (Nat.le_trans (Nat.add_le_add_left inside _) phys_fits)
    rw [run]
    exact (step done (by omega) v p v_at p_at).bind fun _ => ih (done + 1) (by omega)

theorem toNat_add_le_of_fits {s : Space} {a : Address s} (h : fits a len = true) :
    a.toNat + len.toNat ≤ 0x100000000 := by
  have ha := a.toNat_lt
  rw [fits, Bool.or_eq_true, beq_iff_eq, Option.isSome_iff_exists] at h
  rcases h with rfl | ⟨b, hb⟩
  · simpa using Nat.le_of_lt ha
  · have last := Address.add?_eq_some_iff.1 hb
    have hb := b.toNat_lt
    by_cases zero : len = 0
    · subst zero
      simpa using Nat.le_of_lt ha
    · have one : (1 : Word).toNat = 1 := rfl
      have pos : len.toNat ≠ 0 := fun h => zero (BitVec.eq_of_toNat_eq h)
      rw [BitVec.toNat_sub_of_le (BitVec.le_def.2 (by omega)), one] at last
      omega

/-- **Mapping a range.** It is refused at once, or maps one page after the other. -/
theorem mapRange_triple
    (refused : ∀ e t, (e = .misaligned len z.bytes ∨ e = .addressOverflow) → I 0 t →
      E (.refused e) t)
    (step : ∀ k v p, v.toNat = va.toNat + k * z.bytes.toNat →
      p.toNat = pa.toNat + k * z.bytes.toNat → (k + 1) * z.bytes.toNat ≤ len.toNat →
      Triple (I k) (mapPage z v p f) (fun _ => I (k + 1)) E) :
    Triple (I 0) (mapRange z va pa len f)
      (fun k t => k * z.bytes.toNat = len.toNat ∧ I k t) E := by
  rw [mapRange]
  by_cases aligned : isAligned len z.bytes = true
  · have divisible := (isAligned_iff_dvd z.bytes_isPowerOfTwo).1 aligned
    have whole : len.toNat / z.bytes.toNat * z.bytes.toNat = len.toNat :=
      Nat.div_mul_cancel divisible
    by_cases reach : (fits va len && fits pa len) = true
    · obtain ⟨virt_fits, phys_fits⟩ := Bool.and_eq_true_iff.1 reach
      simp only [aligned, reach, Bool.not_true, Bool.false_eq_true, if_false,
        mapFrom_zero va pa f divisible]
      have loop : Triple (I 0) (mapPages z va pa f (len.toNat / z.bytes.toNat) 0)
          (fun k t => k = len.toNat / z.bytes.toNat ∧ I (len.toNat / z.bytes.toNat) t) E := by
        refine mapPages_triple ?_ ?_ ?_ _ 0 (Nat.zero_add _)
        · rw [whole]
          exact toNat_add_le_of_fits virt_fits
        · rw [whole]
          exact toNat_add_le_of_fits phys_fits
        · intro k hk v p hv hp
          refine step k v p hv hp ?_
          rw [← whole]
          exact Nat.mul_le_mul_right _ hk
      refine loop.weaken ?_
      rintro k t ⟨rfl, h⟩
      exact ⟨whole, h⟩
    · simp only [aligned, reach, Bool.not_true, Bool.not_false, Bool.false_eq_true, if_false, if_true]
      exact Triple.refuse fun t h => refused _ t (.inr rfl) h
  · simp only [aligned, Bool.not_false, if_true]
    exact Triple.refuse fun t h => refused _ t (.inl rfl) h

end Ranges

end AddressSpace

/-! ## Requests -/

section Requests

variable {n : Nat} {P : AddressSpace n → Prop} {E : Stop PagingError → AddressSpace n → Prop}

theorem identityEnd_error {c : PagingConfig} {e : PagingError} (h : c.identityEnd = .error e) :
    e = .addressOverflow := by
  rw [PagingConfig.identityEnd] at h
  split at h <;> cases h
  rfl

theorem virtRange_error {c : PagingConfig} {e : PagingError} (h : c.virtRange = .error e) :
    e = .addressOverflow := by
  rw [PagingConfig.virtRange] at h
  split at h
  · cases h
    rfl
  · split at h <;> cases h
    rfl

/-- What mapping pages keeps, mapping a range keeps. -/
theorem mapRange_keeps {z : PageSize} {va : VirtAddr} {pa : PhysAddr} {len : Word} {f : Flags}
    (page : ∀ z va pa f, Triple P (AddressSpace.mapPage z va pa f) (fun _ => P) E)
    (refused : ∀ e t, (∀ va, e ≠ .foreignTable va) → P t → E (.refused e) t) :
    Triple P (AddressSpace.mapRange z va pa len f) (fun _ => P) E := by
  refine (AddressSpace.mapRange_triple (I := fun _ => P) ?_ ?_).weaken fun _ _ h => h.2
  · rintro e t (rfl | rfl) h
    · exact refused _ t (by simp) h
    · exact refused _ t (by simp) h
  · intro k v p _ _ _
    exact page z v p f

/-- **What moving the block and mapping pages keep, building keeps.** Beyond what those two may run
into, a build faults only where the upper mapping ends before it starts. -/
theorem build_triple {base : PhysAddr} {c : PagingConfig}
    (move : Triple P (AddressSpace.reset base) (fun _ => P) E)
    (page : ∀ z va pa f, Triple P (AddressSpace.mapPage z va pa f) (fun _ => P) E)
    (refused : ∀ e t, (∀ va, e ≠ .foreignTable va) → P t → E (.refused e) t)
    (fault : ∀ vs ve f t, c.virtRange = .ok (vs, ve) → checkedSub ve.bits vs.bits = .error f → P t →
      E (.fault f) t) :
    Triple P (build base c) (fun _ => P) E := by
  refine move.bind fun _ => ?_
  refine Triple.bind (Triple.ofRefusable (fun _ _ _ h => h) ?_) fun identity => ?_
  · rintro e t he h
    rw [identityEnd_error he]
    exact refused _ t (by simp) h
  refine (mapRange_keeps page refused).bind fun low => ?_
  refine Triple.bind (R := fun virt t => c.virtRange = .ok virt ∧ P t)
    (Triple.ofRefusable (fun _ _ he h => ⟨he, h⟩) ?_) fun virt => ?_
  · rintro e t he h
    rw [virtRange_error he]
    exact refused _ t (by simp) h
  refine Triple.bind (R := fun _ => P) (Triple.ofFaulting (fun _ _ _ h => h.2) ?_) fun len => ?_
  · rintro f t hf ⟨at_virt, h⟩
    exact fault _ _ f t at_virt hf h
  refine (mapRange_keeps page refused).bind fun high => ?_
  exact fun t h => h

/-- **What moving the block and mapping pages keep, every request keeps.** -/
theorem Request.perform_triple (r : Request)
    (move : ∀ base ∈ r.newBase?, Triple P (AddressSpace.reset base) (fun _ => P) E)
    (page : ∀ z va pa f, Triple P (AddressSpace.mapPage z va pa f) (fun _ => P) E)
    (stop : ∀ e t, (∀ va, e ≠ .refused (.foreignTable va)) → P t → E e t) :
    Triple P r.perform (fun _ => P) E := by
  have refused (e : PagingError) (t : AddressSpace n) (home : ∀ va, e ≠ .foreignTable va) (h : P t) :
      E (.refused e) t := stop _ t (by simpa using home) h
  cases r with
  | reset base => exact move base rfl
  | mapSmall va pa f => exact page .kib4 va pa f
  | mapLarge va pa f => exact page .mib4 va pa f
  | mapRange z va pa len f =>
    exact (mapRange_keeps page refused).bind fun _ => Triple.pure fun _ h => h
  | build base c =>
    have fault (vs ve : VirtAddr) (f : Fault) (t : AddressSpace n) (_ : c.virtRange = .ok (vs, ve))
        (_ : checkedSub ve.bits vs.bits = .error f) (h : P t) : E (.fault f) t :=
      stop _ t (by simp) h
    exact (build_triple (move base rfl) page refused fault).bind fun _ => Triple.pure fun _ h => h

end Requests

end ProtectedBoot.Paging
