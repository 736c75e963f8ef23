import ProtectedBoot.Paging.View
import ProtectedBoot.Proofs.Paging.Range

/-!
# The order of requests does not matter

Two requests that go well one after the other go well the other way round, and the views agree in the
end (`Admits.swap`, `put_comm`): requests for different slots do not meet, except at the pool, where
only the number of tables counts; requests for one slot are for pages of one size; and two of them
that share an address are for the same page and the same frame (`Admits.eq_of_overlap`). So a list of
requests can be put in any order (`Run.perm`).

An address space does what its view says, request by request (`Sound.shown`), whichever tables serve
it. Thus lists of requests that are permutations of each other do the same to every address space, as
far as it shows (`Reachable.performAll_perm`).
-/

namespace ProtectedBoot.Paging

open AddressSpace

variable {n : Nat}

/-! ## Pages that overlap -/

namespace PageRequest

variable {r q : PageRequest} {a : VirtAddr}

theorem covers_va (r : PageRequest) : r.Covers r.va := rfl

@[simp] theorem target_va (r : PageRequest) : r.target r.va = r.pa := by
  unfold target
  rw [BitVec.sub_self, BitVec.add_zero]

/-- A page lies in one slot. -/
theorem Covers.inDirectory_eq (h : r.Covers a) : Slot.inDirectory a = r.slot := by
  unfold Covers at h
  unfold slot
  rw [inDirectory_eq_iff]
  cases size : r.size <;>
    simp only [size, PageSize.toNat_bytes_kib4, PageSize.toNat_bytes_mib4] at h <;> omega

/-- Pages of one size that share an address are the same page. -/
theorem Covers.va_eq (hr : r.Covers a) (hq : q.Covers a) (same_size : q.size = r.size)
    (r_starts : r.Starts) (q_starts : q.Starts) : q.va = r.va := by
  have at_r := Address.isAligned_iff_mod.1 r_starts.1
  have at_q := Address.isAligned_iff_mod.1 q_starts.1
  unfold Covers at hr hq
  rw [same_size] at at_q hq
  apply Address.ext_toNat
  rw [← Nat.div_add_mod q.va.toNat r.size.bytes.toNat, ← Nat.div_add_mod r.va.toNat r.size.bytes.toNat,
    at_q, at_r, ← hq, ← hr]

end PageRequest

/-! ## Two requests -/

namespace View

variable {v w : View} {r q : PageRequest} {a : VirtAddr}

theorem put_pages_slot (v : View) (r : PageRequest) : (v.put r).pages r.slot = some r.size :=
  if_pos rfl

theorem put_pages_of_ne {s : Slot} (other : s ≠ r.slot) : (v.put r).pages s = v.pages s :=
  if_neg other

theorem put_translation (v : View) (r : PageRequest) (a : VirtAddr) :
    (v.put r).translation a = if r.Covers a then .ok (some (r.target a)) else v.translation a := rfl

theorem put_used (v : View) (r : PageRequest) :
    (v.put r).used = if v.Opens r then v.used + 1 else v.used := rfl

/-- A page that was mapped has opened its slot, and no other. -/
theorem put_opens_iff : (v.put r).Opens q ↔ v.Opens q ∧ q.slot ≠ r.slot := by
  unfold Opens
  by_cases same : q.slot = r.slot
  · rw [same, put_pages_slot]
    simp
  · rw [put_pages_of_ne same]
    simp [same]

namespace Admits

variable (first : v.Admits n r) (second : (v.put r).Admits n q)

include second

theorem size_eq (same : q.slot = r.slot) : q.size = r.size := by
  have size := second.size
  rw [same, put_pages_slot] at size
  rcases size with empty | same_size
  · cases empty
  · exact (Option.some.inj same_size).symm

/-- As many tables are taken either way. -/
theorem used_put_put : ((v.put r).put q).used = ((v.put q).put r).used := by
  simp only [put_used, put_opens_iff]
  by_cases same : q.slot = r.slot
  · -- One slot takes one table, whichever of the two requests is the first.
    have opens : v.Opens q ↔ v.Opens r := by
      unfold Opens
      rw [same, second.size_eq same]
    simp [same, opens]
  · have apart : r.slot ≠ q.slot := Ne.symm same
    simp only [same, apart, ne_eq, not_false_eq_true, and_true]
    split <;> split <;> rfl

theorem pages_put_put (s : Slot) : ((v.put r).put q).pages s = ((v.put q).put r).pages s := by
  show (if s = q.slot then some q.size else if s = r.slot then some r.size else v.pages s) =
    if s = r.slot then some r.size else if s = q.slot then some q.size else v.pages s
  by_cases same : q.slot = r.slot
  · rw [same, second.size_eq same]
  · split
    · rename_i at_q
      rw [if_neg (at_q ▸ same)]
    · rfl

include first

/-- **Two pages that overlap are the same page**, and in the same frame. -/
theorem eq_of_overlap (hr : r.Covers a) (hq : q.Covers a) :
    q.size = r.size ∧ q.va = r.va ∧ q.pa = r.pa := by
  have same_size := second.size_eq (hq.inDirectory_eq.symm.trans hr.inDirectory_eq)
  have same_page := hr.va_eq hq same_size first.starts second.starts
  refine ⟨same_size, same_page, ?_⟩
  have frame := second.frame
  rw [same_page, put_translation, if_pos r.covers_va, r.target_va] at frame
  rcases frame with unmapped | same_frame
  · cases unmapped
  · exact (Option.some.inj (Except.ok.inj same_frame)).symm

/-- The later request is admitted without the earlier one. -/
theorem unput : v.Admits n q := by
  refine ⟨second.starts, ?size, ?room, ?frame⟩
  case size =>
    by_cases same : q.slot = r.slot
    · rw [same, second.size_eq same]
      exact first.size
    · rw [← put_pages_of_ne same]
      exact second.size
  case room =>
    intro opens
    by_cases same : q.slot = r.slot
    · -- The earlier request has taken the table for both of them.
      apply first.room
      exact ⟨(second.size_eq same).symm.trans opens.1, same ▸ opens.2⟩
    · have free := second.room (put_opens_iff.2 ⟨opens, same⟩)
      rw [put_used] at free
      split at free <;> omega
  case frame =>
    by_cases overlap : r.Covers q.va
    · obtain ⟨-, same_page, same_frame⟩ := first.eq_of_overlap second overlap q.covers_va
      rw [same_page, same_frame]
      exact first.frame
    · have frame := second.frame
      rwa [put_translation, if_neg overlap] at frame

/-- The earlier request is admitted after the later one. -/
theorem put : (v.put q).Admits n r := by
  refine ⟨first.starts, ?size, ?room, ?frame⟩
  case size =>
    by_cases same : q.slot = r.slot
    · right
      rw [← same, put_pages_slot, second.size_eq same]
    · rw [put_pages_of_ne (Ne.symm same)]
      exact first.size
  case room =>
    intro opens
    obtain ⟨opens, other⟩ := put_opens_iff.1 opens
    have free := first.room opens
    rw [put_used]
    split
    · -- Both of them take a table, and the pool had one for the later request too.
      rename_i q_opens
      have next := second.room (put_opens_iff.2 ⟨q_opens, other.symm⟩)
      rwa [put_used, if_pos opens] at next
    · exact free
  case frame =>
    rw [put_translation]
    split
    · rename_i overlap
      obtain ⟨-, same_page, same_frame⟩ := first.eq_of_overlap second r.covers_va overlap
      right
      rw [← same_page, q.target_va, same_frame]
    · exact first.frame

/-- **Two requests that are admitted one after the other are admitted the other way round.** -/
theorem swap : v.Admits n q ∧ (v.put q).Admits n r :=
  ⟨first.unput second, first.put second⟩

theorem translation_put_put (a : VirtAddr) :
    ((v.put r).put q).translation a = ((v.put q).put r).translation a := by
  simp only [put_translation]
  by_cases hr : r.Covers a
  · by_cases hq : q.Covers a
    · obtain ⟨-, same_page, same_frame⟩ := first.eq_of_overlap second hr hq
      have same_target : q.target a = r.target a := by
        unfold PageRequest.target
        rw [same_page, same_frame]
      simp only [if_pos hr, if_pos hq, same_target]
    · simp only [if_pos hr, if_neg hq]
  · rw [if_neg hr, if_neg hr]

/-- **And they lead to the same view.** -/
theorem put_comm : (v.put r).put q = (v.put q).put r := by
  apply View.ext
  · exact second.used_put_put
  · funext s
    exact second.pages_put_put s
  · funext a
    exact first.translation_put_put second a

end Admits

/-! ## Lists of requests -/

/-- **Requests can be put in any order.** -/
theorem Run.perm {l l' : List PageRequest} (same : l.Perm l') (run : Run n v l w) : Run n v l' w := by
  induction same generalizing v with
  | nil => exact run
  | cons r _ ih =>
    cases run with
    | cons admitted rest => exact .cons admitted (ih rest)
  | swap q r rest =>
    cases run with
    | cons second_admitted run =>
      cases run with
      | cons first_admitted run =>
        obtain ⟨q_admitted, r_admitted⟩ := second_admitted.swap first_admitted
        refine .cons q_admitted (.cons r_admitted ?_)
        rwa [← second_admitted.put_comm first_admitted]
  | trans _ _ ih₁ ih₂ => exact ih₂ (ih₁ run)

end View

/-! ## An address space and its view -/

namespace AddressSpace

variable {t u : AddressSpace n} {r : PageRequest} {s : Slot}

theorem pagesAt_of_empty (empty : (t.dirEntry s).kind = none) : t.pagesAt s = none := by
  unfold pagesAt
  rw [empty]
  rfl

theorem pagesAt_of_link {p : PhysPage .kib4} (link : (t.dirEntry s).kind = some (.link p)) :
    t.pagesAt s = some .kib4 := by
  unfold pagesAt
  rw [link]
  rfl

theorem pagesAt_of_leaf {p : PhysPage .mib4} (leaf : (t.dirEntry s).kind = some (.leaf p)) :
    t.pagesAt s = some .mib4 := by
  unfold pagesAt
  rw [leaf]
  rfl

theorem Links.pagesAt {i : Nat} (links : t.Links s i) : t.pagesAt s = some .kib4 := by
  obtain ⟨p, link, -⟩ := links
  exact pagesAt_of_link link

theorem pagesAt_linkNext {free : t.used < n} {user : Bool} {a : PhysAddr} (s r : Slot) :
    (t.linkNext free s user a).pagesAt r = if r = s then some .kib4 else t.pagesAt r := by
  unfold pagesAt
  rw [dirEntry_linkNext]
  split
  · rw [DirEntry.kind_ofTable]
    rfl
  · rfl

theorem pagesAt_setPage (s r : Slot) (f : Flags) (p : PhysPage .mib4) :
    (t.setDirEntry s (.ofPage f p)).pagesAt r = if r = s then some .mib4 else t.pagesAt r := by
  unfold pagesAt
  rw [dirEntry_setDirEntry]
  split
  · rw [DirEntry.kind_ofPage]
    rfl
  · rfl

/-- What shows of a page that was mapped: its addresses, and that it has its slot. -/
theorem view_of_performed (wf : t.WellFormed) (done : r.perform t = (.ok (), u))
    (used : u.used = if t.view.Opens r then t.used + 1 else t.used)
    (pages : ∀ s, u.pagesAt s = if s = r.slot then some r.size else t.pagesAt s) :
    u.view = t.view.put r := by
  apply View.ext
  · exact used
  · funext s
    exact pages s
  · funext a
    exact translate_of_mapPage wf done a

/-- A page that was mapped before leaves the address space as it is. -/
theorem pagesAt_put (has : t.pagesAt r.slot = some r.size) (s : Slot) :
    t.pagesAt s = if s = r.slot then some r.size else t.pagesAt s := by
  split
  · rename_i own
    rw [own, has]
  · rfl

/-- The two ways in which a request can go, as far as it shows. -/
inductive Shown (t : AddressSpace n) (r : PageRequest) :
    Except (Stop PagingError) Unit × AddressSpace n → Prop where
  | done {u : AddressSpace n} (admitted : t.view.Admits n r) (shows : u.view = t.view.put r) :
    Shown t r (.ok (), u)
  | failed {u : AddressSpace n} (e : Stop PagingError) (barred : ¬ t.view.Admits n r) :
    Shown t r (.error e, u)

/-- The demands on a request for a page that is not mapped. -/
theorem admits_of_unmapped (starts : r.Starts)
    (size : t.pagesAt r.slot = none ∨ t.pagesAt r.slot = some r.size)
    (room : t.view.Opens r → t.used < n) (unmapped : t.translate r.va = .ok none) :
    t.view.Admits n r :=
  ⟨starts, size, room, .inl unmapped⟩

/-- A request is barred from a slot with pages of the other size. -/
theorem not_admits_of_size {z : PageSize} (has : t.pagesAt r.slot = some z) (other : z ≠ r.size) :
    ¬ t.view.Admits n r := by
  intro admitted
  have size : t.pagesAt r.slot = none ∨ t.pagesAt r.slot = some r.size := admitted.size
  rw [has] at size
  rcases size with empty | same
  · cases empty
  · exact other (Option.some.inj same)

/-- A request is barred from a page that is mapped to another frame. -/
theorem not_admits_of_frame {a : PhysAddr} (mapped : t.translate r.va = .ok (some a))
    (other : a ≠ r.pa) : ¬ t.view.Admits n r := by
  intro admitted
  have frame : t.translate r.va = .ok none ∨ t.translate r.va = .ok (some r.pa) := admitted.frame
  rw [mapped] at frame
  rcases frame with unmapped | same
  · cases unmapped
  · exact other (Option.some.inj (Except.ok.inj same))

/-- A request that finds its page mapped is admitted, and shows nowhere. -/
theorem shown_of_present (wf : t.WellFormed) (starts : r.Starts)
    (has : t.pagesAt r.slot = some r.size) (done : r.perform t = (.ok (), t)) :
    Shown t r (.ok (), t) := by
  have opens : ¬ t.view.Opens r := by
    rintro ⟨-, empty⟩
    rw [show t.pagesAt r.slot = none from empty] at has
    cases has
  have mapped : t.translate r.va = .ok (some r.pa) := by
    rw [translate_of_mapPage wf done, if_pos rfl]
    exact congrArg (fun a => Except.ok (some a)) r.target_va
  refine .done ⟨starts, .inr has, fun h => absurd h opens, .inr mapped⟩ ?_
  exact view_of_performed wf done (by rw [if_neg opens]) (pagesAt_put has)

variable {va : VirtAddr} {pa : PhysAddr}

/-- **A small page shows as it should.** -/
theorem Sound.shown_mapSmall (sound : t.Sound) (room : t.HasRoom) (hva : va.isAligned .kib4 = true)
    (hpa : pa.isAligned .kib4 = true) (f : Flags) :
    Shown t ⟨.kib4, va, pa, f⟩ (mapSmall va pa f t) := by
  have wf := sound.wellFormed
  have course := mapSmall_course wf hva hpa f
  generalize run : mapSmall va pa f t = outcome at course ⊢
  cases course with
  | covered q leaf => exact .failed _ (not_admits_of_size (pagesAt_of_leaf leaf) (by simp))
  | exhausted empty full =>
    refine .failed _ fun admitted => ?_
    have free : t.used < n := admitted.room ⟨rfl, pagesAt_of_empty empty⟩
    exact absurd full (Nat.ne_of_lt free)
  | unplaced empty free c no_place =>
    obtain ⟨a, place⟩ := wf.exists_tableAddress room empty free
    rw [place] at no_place
    cases no_place
  | opened empty free a place =>
    have opens : t.view.Opens ⟨.kib4, va, pa, f⟩ := ⟨rfl, pagesAt_of_empty empty⟩
    have unmapped : t.translate va = .ok none := translate_of_empty empty
    refine .done (admits_of_unmapped ⟨hva, hpa⟩ (.inl opens.2) (fun _ => free) unmapped) ?_
    refine view_of_performed wf run (if_pos opens).symm fun s => ?_
    exact pagesAt_linkNext (Slot.inDirectory va) s
  | occupied i links q entry other =>
    have mapped := translate_of_links (wf.lt_used_of_links links) links
    rw [entry] at mapped
    exact .failed _ (not_admits_of_frame mapped fun same =>
      other (eq_containing_of_locate hva hpa same))
  | present i links entry => exact shown_of_present wf ⟨hva, hpa⟩ links.pagesAt run
  | entered i links blank =>
    have unmapped : t.translate va = .ok none := by
      rw [translate_of_links (wf.lt_used_of_links links) links, blank]
      rfl
    have opens : ¬ t.view.Opens ⟨.kib4, va, pa, f⟩ := fun opens =>
      absurd (opens.2.symm.trans links.pagesAt) (by simp)
    refine .done (admits_of_unmapped ⟨hva, hpa⟩ (.inr links.pagesAt) (absurd · opens) unmapped) ?_
    exact view_of_performed wf run (if_neg opens).symm (pagesAt_put links.pagesAt)

/-- **A large page shows as it should.** -/
theorem Sound.shown_mapLarge (sound : t.Sound) (hva : va.isAligned .mib4 = true)
    (hpa : pa.isAligned .mib4 = true) (f : Flags) :
    Shown t ⟨.mib4, va, pa, f⟩ (mapLarge va pa f t) := by
  have wf := sound.wellFormed
  have course := mapLarge_course t hva hpa f
  have opens : ¬ t.view.Opens ⟨.mib4, va, pa, f⟩ := fun opens => absurd opens.1 (by simp)
  generalize run : mapLarge va pa f t = outcome at course ⊢
  cases course with
  | linked q link => exact .failed _ (not_admits_of_size (pagesAt_of_link link) (by simp))
  | occupied q leaf other =>
    exact .failed _ (not_admits_of_frame (translate_of_leaf leaf) fun same =>
      other (eq_containing_of_locate hva hpa same))
  | present leaf => exact shown_of_present wf ⟨hva, hpa⟩ (pagesAt_of_leaf leaf) run
  | entered empty =>
    have unmapped : t.translate va = .ok none := translate_of_empty empty
    refine .done (admits_of_unmapped ⟨hva, hpa⟩ (.inl (pagesAt_of_empty empty)) (absurd · opens)
      unmapped) ?_
    refine view_of_performed wf run (if_neg opens).symm fun s => ?_
    exact pagesAt_setPage (Slot.inDirectory va) s f (.containing pa)

/-- **An address space does what its view says**: a request goes well exactly if the view admits it,
and shows in the view as it should. -/
theorem Sound.shown (sound : t.Sound) (room : t.HasRoom) (r : PageRequest) :
    Shown t r (r.perform t) := by
  obtain ⟨z, va, pa, f⟩ := r
  by_cases starts : va.isAligned z = true ∧ pa.isAligned z = true
  · obtain ⟨hva, hpa⟩ := starts
    cases z with
    | kib4 => exact sound.shown_mapSmall room hva hpa f
    | mib4 => exact sound.shown_mapLarge hva hpa f
  · have refused := mapPage_of_misaligned starts f t
    show Shown t _ (mapPage z va pa f t)
    rw [refused]
    exact .failed _ fun admitted => starts admitted.starts

/-! ## Lists of requests -/

/-- What is kept from request to request. -/
theorem Sound.after_perform (sound : t.Sound) (room : t.HasRoom) (done : r.perform t = (.ok (), u)) :
    u.Sound ∧ u.HasRoom := by
  have after := sound.after_mapPage r.size r.va r.pa r.flags
  rw [show mapPage r.size r.va r.pa r.flags t = _ from done] at after
  rcases after with ⟨c, fault, -⟩ | ⟨after, same, -⟩
  · cases fault
  · refine ⟨after, ?_⟩
    unfold HasRoom
    rw [show u.base = t.base from same]
    exact room

/-- Requests that go well go well in the view. -/
theorem run_of_performAll {l : List PageRequest} (sound : t.Sound) (room : t.HasRoom)
    (done : PageRequest.performAll l t = (.ok (), u)) : View.Run n t.view l u.view := by
  induction l generalizing t with
  | nil =>
    cases done
    exact .nil
  | cons r rest ih =>
    obtain ⟨_, t', first, others⟩ := Attempt.bind_eq_ok done
    obtain ⟨sound', room'⟩ := sound.after_perform room first
    have shown := sound.shown room r
    rw [first] at shown
    cases shown with
    | done admitted shows =>
      refine .cons admitted ?_
      rw [← shows]
      exact ih sound' room' others

/-- Requests that go well in the view go well. -/
theorem performAll_of_run {l : List PageRequest} {w : View} (sound : t.Sound) (room : t.HasRoom)
    (run : View.Run n t.view l w) :
    ∃ u, PageRequest.performAll l t = (.ok (), u) ∧ u.view = w := by
  induction l generalizing t with
  | nil =>
    cases run
    exact ⟨t, rfl, rfl⟩
  | cons r rest ih =>
    cases run with
    | cons admitted others =>
      have shown := sound.shown room r
      rcases first : r.perform t with ⟨_ | _, t'⟩
      · rw [first] at shown
        cases shown with
        | failed _ barred => exact absurd admitted barred
      · obtain ⟨sound', room'⟩ := sound.after_perform room first
        rw [first] at shown
        cases shown with
        | done _ shows =>
          rw [← shows] at others
          obtain ⟨u, done, same⟩ := ih sound' room' others
          refine ⟨u, ?_, same⟩
          show (r.perform >>= fun _ => PageRequest.performAll rest) t = _
          rw [Attempt.bind_apply, first]
          exact done

/-- **The order of requests does not matter.** If all requests of a list go well, one after the other,
so do those of a permutation of the list, and as many tables are taken and every address translates
to the same. -/
theorem Reachable.performAll_perm (h : t.Reachable) {l l' : List PageRequest} (same : l.Perm l')
    (done : PageRequest.performAll l t = (.ok (), u)) :
    ∃ u', PageRequest.performAll l' t = (.ok (), u') ∧ u'.used = u.used ∧
      ∀ va, u'.translate va = u.translate va := by
  obtain ⟨sound, room⟩ := h.sound
  have run := (run_of_performAll sound room done).perm same
  obtain ⟨u', done', view⟩ := performAll_of_run sound room run
  exact ⟨u', done', congrArg View.used view, congrFun (congrArg View.translation view)⟩

/-- Two small pages in different slots, and a large one. -/
def threePages : List PageRequest := [
  ⟨.kib4, ⟨0x1000⟩, ⟨0x5000⟩, .kernel⟩,
  ⟨.kib4, ⟨0x400000⟩, ⟨0x6000⟩, .kernel⟩,
  ⟨.mib4, ⟨0x800000⟩, ⟨0xC00000⟩, .kernel⟩]

/-- Backwards, the first slot gets the other table, and nothing else changes. -/
theorem threePages_backwards :
    ∃ u u', PageRequest.performAll threePages (empty 2) = (.ok (), u) ∧
      PageRequest.performAll threePages.reverse (empty 2) = (.ok (), u') ∧
      u'.dirEntry (.inDirectory ⟨0⟩) ≠ u.dirEntry (.inDirectory ⟨0⟩) ∧
      u'.used = u.used ∧ u'.translate ⟨0x1ABC⟩ = u.translate ⟨0x1ABC⟩ := by
  have goes_well : (PageRequest.performAll threePages (empty 2)).1.isOk = true := by decide +kernel
  have other_link : (PageRequest.performAll threePages.reverse (empty 2)).2.dirEntry (.inDirectory ⟨0⟩) ≠
      (PageRequest.performAll threePages (empty 2)).2.dirEntry (.inDirectory ⟨0⟩) := by
    decide +kernel
  rcases forwards : PageRequest.performAll threePages (empty 2) with ⟨e | _, u⟩
  · rw [forwards] at goes_well
    cases goes_well
  · obtain ⟨u', backwards, used, translation⟩ :=
      Reachable.empty.performAll_perm (List.reverse_perm threePages).symm forwards
    rw [forwards, backwards] at other_link
    exact ⟨u, u', rfl, backwards, other_link, used, translation _⟩

end AddressSpace

end ProtectedBoot.Paging
