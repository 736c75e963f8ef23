import ProtectedBoot.Proofs.Paging.Mapping

/-!
# What holds of every address space

`Sound` is the invariant of the mapper: the directory and the pool are in step, and every entry of
the directory is one that the mapper writes. Mapping a page keeps it unless there is no room for
another table (`Sound.after_mapPage`), so it holds of an address space after any history of requests
that did not fault (`Attainable.sound`), and after any history at all if each block had room
(`Reachable.sound`).

`Reachable.pool_in_step` reads the invariant off: links and tables that were taken correspond one to
one, tables that were not taken are empty, and no request ever meets a link that leads out of the
pool.
-/

namespace ProtectedBoot.Paging.AddressSpace

open Attempt (Triple)

variable {n : Nat} {t : AddressSpace n}

/-! ## The invariant -/

/-- The directory and the pool are in step, and the directory holds what the mapper writes. -/
structure Sound (t : AddressSpace n) : Prop where
  wellFormed : t.WellFormed
  written : ∀ s, Written (t.dirEntry s)

@[simp] theorem base_emptyAt (n : Nat) (base : PhysAddr) : (emptyAt n base).base = base := rfl

@[simp] theorem dirEntry_emptyAt (n : Nat) (base : PhysAddr) (s : Slot) :
    (emptyAt n base).dirEntry s = .empty :=
  dirEntry_empty (n := n) s

theorem sound_emptyAt {base : PhysAddr} (h : base.isAligned .kib4 = true) :
    (emptyAt n base).Sound where
  wellFormed := by
    have none_linked (s : Slot) (i : Nat) : ¬ (emptyAt n base).Links s i := fun links =>
      links.kind_ne_none (by simp)
    refine ⟨?_, ?_, ?_, ?_, ?_⟩
    · exact Nat.dvd_of_mod_eq_zero (Address.isAligned_iff_mod.1 h)
    · intro s p link
      simp at link
    · intro i hi
      exact absurd hi (Nat.not_lt_zero i)
    · intro s r i links
      exact absurd links (none_linked s i)
    · exact (wellFormed_empty n).rest_empty
  written s := by
    rw [dirEntry_emptyAt]
    exact .empty

namespace Sound

variable (sound : t.Sound)

include sound

theorem linkNext {s : Slot} (empty : (t.dirEntry s).kind = none) (free : t.used < n) (user : Bool)
    {a : PhysAddr} (at_next : t.tableAddress t.used = .ok a) : (t.linkNext free s user a).Sound where
  wellFormed := sound.wellFormed.linkNext empty free user at_next
  written r := by
    rw [dirEntry_linkNext]
    split
    · exact .table user _
    · exact sound.written r

theorem setTableEntry {i : Fin n} (taken : i.val < t.used) (s : Slot) (e : TableEntry) :
    (t.setTableEntry i s e).Sound :=
  ⟨sound.wellFormed.setTableEntry taken s e, sound.written⟩

theorem setPage {s : Slot} (empty : (t.dirEntry s).kind = none) (f : Flags) (p : PhysPage .mib4) :
    (t.setDirEntry s (.ofPage f p)).Sound where
  wellFormed := sound.wellFormed.setPage empty f p
  written r := by
    rw [dirEntry_setDirEntry]
    split
    · exact .page f p
    · exact sound.written r

/-! ## Mapping a page -/

/-- **Mapping a page keeps the invariant**, unless it faults for want of room. Otherwise it goes well
or is refused, and never for a link that leads out of the pool. -/
theorem after_mapPage (z : PageSize) (va : VirtAddr) (pa : PhysAddr) (f : Flags) :
    (∃ c, (mapPage z va pa f t).1 = .error (.fault c) ∧ ¬ t.HasRoom) ∨
      (mapPage z va pa f t).2.Sound ∧
      (mapPage z va pa f t).2.base = t.base ∧
      ∀ e, (mapPage z va pa f t).1 = .error e → ∃ r, e = .refused r ∧ ∀ v, r ≠ .foreignTable v := by
  generalize run : mapPage z va pa f t = outcome
  by_cases aligned : va.isAligned z = true ∧ pa.isAligned z = true
  · obtain ⟨hva, hpa⟩ := aligned
    cases z with
    | kib4 =>
      have course : SmallCourse t va pa f outcome := by
        rw [← run]
        exact mapSmall_course sound.wellFormed hva hpa f
      cases course with
      | covered => exact .inr ⟨sound, rfl, by simp⟩
      | exhausted => exact .inr ⟨sound, rfl, by simp⟩
      | unplaced empty free c no_place =>
        -- The table is counted as taken, but no slot links it: this is where the invariant is lost.
        refine .inl ⟨c, rfl, fun room => ?_⟩
        obtain ⟨a, place⟩ := sound.wellFormed.exists_tableAddress room empty free
        rw [place] at no_place
        cases no_place
      | opened empty free a place =>
        have linked := sound.linkNext empty free f.user place
        exact .inr ⟨linked.setTableEntry (Nat.lt_succ_self _) _ _, rfl, by simp⟩
      | occupied => exact .inr ⟨sound, rfl, by simp⟩
      | present => exact .inr ⟨sound, rfl, by simp⟩
      | entered i links =>
        have taken := sound.wellFormed.lt_used_of_links links
        exact .inr ⟨sound.setTableEntry taken _ _, rfl, by simp⟩
    | mib4 =>
      have course : LargeCourse t va pa f outcome := by
        rw [← run]
        exact mapLarge_course t hva hpa f
      cases course with
      | linked => exact .inr ⟨sound, rfl, by simp⟩
      | occupied => exact .inr ⟨sound, rfl, by simp⟩
      | present => exact .inr ⟨sound, rfl, by simp⟩
      | entered empty => exact .inr ⟨sound.setPage empty f _, rfl, by simp⟩
  · have misaligned := mapPage_of_misaligned aligned f t
    rw [← run, misaligned]
    exact .inr ⟨sound, rfl, by simp⟩

/-- A request for a page that goes well keeps the invariant. -/
theorem of_mapPage {u : AddressSpace n} {z : PageSize} {va : VirtAddr} {pa : PhysAddr} {f : Flags}
    (done : mapPage z va pa f t = (.ok (), u)) : u.Sound := by
  have page := sound.after_mapPage z va pa f
  rw [done] at page
  rcases page with ⟨c, fault, -⟩ | ⟨after, -, -⟩
  · cases fault
  · exact after

end Sound

/-! ## Histories -/

/-- No request meets a link that leads out of the pool, and one that does not fault keeps the
invariant. -/
theorem sound_triple (r : Request) :
    Triple (Sound (n := n)) r.perform (fun _ => Sound)
      (fun e t => (∃ c, e = .fault c) ∨ t.Sound ∧ ∀ v, e ≠ .refused (.foreignTable v)) := by
  refine r.perform_triple ?_ ?_ ?_
  · intro base _ t sound
    by_cases aligned : base.isAligned .kib4 = true
    · rw [reset_of_aligned aligned]
      exact sound_emptyAt aligned
    · rw [reset_of_misaligned aligned]
      exact .inr ⟨sound, by simp⟩
  · intro z va pa f t sound
    rcases run : mapPage z va pa f t with ⟨e | u, t'⟩
    · have page := sound.after_mapPage z va pa f
      rw [run] at page
      rcases page with ⟨c, hc, -⟩ | ⟨after, -, never⟩
      · cases hc
        exact .inl ⟨c, rfl⟩
      · obtain ⟨r, rfl, home⟩ := never e rfl
        exact .inr ⟨after, by simpa using home⟩
    · exact sound.of_mapPage run
  · exact fun e t never sound => .inr ⟨sound, never⟩

/-- **The invariant holds after any history without a fault**, wherever the block lies. -/
theorem Attainable.sound (h : t.Attainable) : t.Sound := by
  induction h with
  | empty => exact sound_emptyAt (by decide)
  | @step t r _ survives ih =>
    have after := sound_triple r t ih
    rw [AddressSpace.after]
    rcases run : r.perform t with ⟨e | u, t'⟩
    · rw [run] at after
      rcases after with ⟨c, rfl⟩ | ⟨after, -⟩
      · exact absurd (congrArg Prod.fst run) (survives c)
      · exact after
    · rw [run] at after
      exact after

/-- The block of an address space that a request moved has room. -/
theorem hasRoom_emptyAt {base : PhysAddr} (fits : BlockFits n base) : (emptyAt n base).HasRoom := by
  intro i hi _
  rw [BlockFits] at fits
  rw [base_emptyAt]
  omega

/-- Moving the block to where there is room goes well or is refused. -/
theorem reset_room_triple {base : PhysAddr} (fits : BlockFits n base) :
    Triple (fun t : AddressSpace n => t.Sound ∧ t.HasRoom) (reset base)
      (fun _ t => t.Sound ∧ t.HasRoom) (fun e t => (∃ r, e = .refused r) ∧ t.Sound ∧ t.HasRoom) := by
  intro t h
  by_cases aligned : base.isAligned .kib4 = true
  · rw [reset_of_aligned aligned]
    exact ⟨sound_emptyAt aligned, hasRoom_emptyAt fits⟩
  · rw [reset_of_misaligned aligned]
    exact ⟨⟨_, rfl⟩, h⟩

/-- Where there is room, a request for a page goes well or is refused, and there is room after it. -/
theorem mapPage_room_triple (z : PageSize) (va : VirtAddr) (pa : PhysAddr) (f : Flags) :
    Triple (fun t : AddressSpace n => t.Sound ∧ t.HasRoom) (mapPage z va pa f)
      (fun _ t => t.Sound ∧ t.HasRoom) (fun e t => (∃ r, e = .refused r) ∧ t.Sound ∧ t.HasRoom) := by
  rintro t ⟨sound, room⟩
  rcases sound.after_mapPage z va pa f with ⟨c, -, crowded⟩ | ⟨after, same, never⟩
  · exact absurd room crowded
  · have room' : (mapPage z va pa f t).2.HasRoom := by
      rw [HasRoom, same]
      exact room
    rcases run : mapPage z va pa f t with ⟨e | u, t'⟩ <;> rw [run] at after room' never
    · obtain ⟨r, refused, -⟩ := never e rfl
      exact ⟨⟨r, refused⟩, after, room'⟩
    · exact ⟨after, room'⟩

/-- A request that moves the block to where there is room keeps the invariant, even if it faults. -/
theorem sound_room_triple (r : Request) (fits : r.Fits n) :
    Triple (fun t : AddressSpace n => t.Sound ∧ t.HasRoom) r.perform
      (fun _ t => t.Sound ∧ t.HasRoom) (fun _ t => t.Sound ∧ t.HasRoom) := by
  refine r.perform_triple ?_ ?_ ?_
  · intro base asked
    exact (reset_room_triple (fits base asked)).stopping fun _ _ h => h.2
  · intro z va pa f
    exact (mapPage_room_triple z va pa f).stopping fun _ _ h => h.2
  · exact fun e t _ h => h

/-- **The invariant holds after any history whose blocks had room.** -/
theorem Reachable.sound (h : t.Reachable) : t.Sound ∧ t.HasRoom := by
  induction h with
  | empty =>
    refine ⟨sound_emptyAt (by decide), fun i _ hi => ?_⟩
    have zero : (AddressSpace.empty n).base.toNat = 0 := rfl
    simp only [slotCount] at hi
    omega
  | step r _ fits ih => exact (sound_room_triple r fits).left ih

/-! ## Links and tables correspond -/

/-- A slot that links a table. -/
abbrev LinkingSlot (t : AddressSpace n) : Type :=
  { s : Slot // ∃ p, (t.dirEntry s).kind = some (.link p) }

/-- **The links of the directory and the tables that were taken correspond one to one**, and the
index of the table is the one that the search by address finds. -/
theorem WellFormed.exists_bijective_index (wf : t.WellFormed) :
    ∃ index : t.LinkingSlot → Fin t.used, Function.Bijective index ∧
      ∀ (s : t.LinkingSlot) p, (t.dirEntry s.val).kind = some (.link p) →
        p.base.toNat = t.base.toNat + 4096 * ((index s).val + 1) ∧
        t.tableIn p = .ok (some ((index s).castLE t.used_le)) := by
  have linked (s : t.LinkingSlot) : ∃ i : Fin t.used, t.Links s.val i := by
    obtain ⟨p, kind⟩ := s.property
    obtain ⟨i, hi, links⟩ := wf.link_taken s.val p kind
    exact ⟨⟨i, hi⟩, links⟩
  -- Different slots choose different tables, and every table that was taken is chosen.
  choose index links using linked
  refine ⟨index, ⟨?injective, ?surjective⟩, ?found⟩
  case injective =>
    intro s r same
    have := links r
    rw [← same] at this
    exact Subtype.ext (wf.link_unique s.val r.val _ (links s) this)
  case surjective =>
    intro i
    obtain ⟨s, h⟩ := wf.taken_linked i i.isLt
    have ⟨p, kind, _⟩ := h
    exact ⟨⟨s, p, kind⟩, Fin.ext ((links ⟨s, p, kind⟩).index_unique h)⟩
  case found =>
    intro s p kind
    obtain ⟨q, hq, place⟩ := links s
    rw [kind] at hq
    cases hq
    exact ⟨place, tableIn_eq_some (index s).isLt place⟩

/-- **The pool and the directory never get out of step.** After any history of requests whose blocks
had room, whichever way the requests went: the block starts at a page; no more tables are taken than
there are; an entry of the directory that is in use is a large leaf or leads to a table that was
taken; links and tables that were taken correspond one to one; and the other tables are empty. So no
request, wherever it moves the block, is refused for a link that leads out of the pool, and no two
slots share a table. -/
theorem Reachable.pool_in_step (h : t.Reachable) :
    4096 ∣ t.base.toNat ∧ t.used ≤ n ∧
      (∀ s, (t.dirEntry s).isPresent = true →
        (∃ p, (t.dirEntry s).kind = some (.leaf p)) ∨
          ∃ p i, (t.dirEntry s).kind = some (.link p) ∧ i < t.used ∧
            p.base.toNat = t.base.toNat + 4096 * (i + 1)) ∧
      (∃ index : t.LinkingSlot → Fin t.used, Function.Bijective index ∧
        ∀ (s : t.LinkingSlot) p, (t.dirEntry s.val).kind = some (.link p) →
          p.base.toNat = t.base.toNat + 4096 * ((index s).val + 1) ∧
          t.tableIn p = .ok (some ((index s).castLE t.used_le))) ∧
      (∀ i : Fin n, t.used ≤ i.val → t.tables.get i = .empty) ∧
      (∀ (r : Request) va, (r.perform t).1 ≠ .error (.refused (.foreignTable va))) ∧
      ∀ s r p, (t.dirEntry s).kind = some (.link p) → (t.dirEntry r).kind = some (.link p) →
        s = r := by
  obtain ⟨sound, -⟩ := h.sound
  have wf := sound.wellFormed
  refine ⟨wf.base_aligned, t.used_le, ?entries, wf.exists_bijective_index, wf.rest_empty, ?never,
    ?apart⟩
  case entries =>
    intro s present
    rcases kind : (t.dirEntry s).kind with _ | p | p
    · rw [DirEntry.kind_eq_none_iff.1 kind] at present
      cases present
    · obtain ⟨i, hi, q, hq, place⟩ := wf.link_taken s p kind
      rw [kind] at hq
      cases hq
      exact .inr ⟨p, i, rfl, hi, place⟩
    · exact .inl ⟨p, rfl⟩
  case never =>
    intro r va refused
    have after := sound_triple r t sound
    rcases run : r.perform t with ⟨e | u, t'⟩
    · rw [run] at after refused
      cases refused
      rcases after with ⟨c, hc⟩ | ⟨-, never⟩
      · cases hc
      · exact never va rfl
    · rw [run] at refused
      cases refused
  case apart =>
    intro s r p hs hr
    obtain ⟨i, -, links⟩ := wf.link_taken s p hs
    have ⟨q, hq, place⟩ := links
    rw [hs] at hq
    cases hq
    exact wf.link_unique s r i links ⟨p, hr, place⟩

/-- Some requests: one is refused because the only table is taken, one because the block would not
start at a page, and one stops in the middle of a range. -/
def mixedHistory : List Request := [
  .reset ⟨0x200000⟩,
  .mapSmall ⟨0x1000⟩ ⟨0x5000⟩ .kernel,
  .mapLarge ⟨0x400000⟩ ⟨0x800000⟩ .kernel,
  .mapSmall ⟨0xC00000⟩ ⟨0⟩ .kernel,
  .reset ⟨0x1234⟩,
  .mapRange .kib4 ⟨0x3FE000⟩ ⟨0x3FE000⟩ 0x4000 .kernel]

theorem pool_in_step_after_mixedHistory :
    ((empty 1).afterAll mixedHistory).used = 1 ∧
      ∃ index : ((empty 1).afterAll mixedHistory).LinkingSlot →
          Fin ((empty 1).afterAll mixedHistory).used, Function.Bijective index := by
  have reachable := Reachable.empty.afterAll mixedHistory (n := 1) (by decide)
  obtain ⟨-, -, -, ⟨index, bijective, -⟩, -⟩ := reachable.pool_in_step
  exact ⟨by decide +kernel, index, bijective⟩

end ProtectedBoot.Paging.AddressSpace
