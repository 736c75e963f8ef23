import ProtectedBoot.Proofs.Paging.Order

/-!
# Every request gets the right answer

A request for one page goes well exactly if its demands are met, and otherwise names the first demand
that is not, in the order in which they are looked at: that the page starts at its addresses, that
the slot has no pages of the other size, that the pool has a table if one is needed, and that the
page is not mapped to another frame (`View.Decides`). Which one that is can be told from the view.

A refused request leaves no trace (`Sound.perform_decided`), though a small page takes its table
from the pool before it is looked up there: a table fresh from the pool maps nothing, so the page
cannot be in the way of itself (`mapSmall_course`).
-/

namespace ProtectedBoot.Paging

open AddressSpace

variable {n : Nat}

/-! ## The five answers -/

namespace View

variable {v : View} {r : PageRequest}

/-- A slot with pages of the size asked for, or without any, is in no one's way. -/
theorem not_conflicts (size : v.pages r.slot = none ∨ v.pages r.slot = some r.size) :
    ¬ v.Conflicts r := by
  rintro ⟨z, has, other⟩
  rw [has] at size
  rcases size with empty | same
  · cases empty
  · exact other (Option.some.inj same)

/-- A slot that has pages needs no table. -/
theorem not_exhausts_of_some {z : PageSize} (has : v.pages r.slot = some z) : ¬ v.Exhausts n r := by
  rintro ⟨⟨-, empty⟩, -⟩
  cases has.symm.trans empty

/-- The address that a refusal of a misaligned request names. -/
theorem decides_misaligned (off : ¬ r.Starts) : v.Decides n r (.error (.refused (.misaligned
    (if r.va.isAligned r.size then r.pa.bits else r.va.bits) r.size.bytes))) where
  misaligned := iff_of_true ⟨_, rfl⟩ off
  misaligned_named a same := by
    cases same
    rfl
  conflicting starts := absurd starts off
  outOfTables starts := absurd starts off
  alreadyMapped starts := absurd starts off
  ok := by simp [off]

theorem decides_conflicting (starts : r.Starts) (conflicts : v.Conflicts r) :
    v.Decides n r (.error (.refused (.conflictingLargePage r.va))) where
  misaligned := by simp [starts]
  misaligned_named := by simp
  conflicting _ := iff_of_true rfl conflicts
  outOfTables _ apart := absurd conflicts apart
  alreadyMapped _ apart := absurd conflicts apart
  ok := by simp [conflicts]

theorem decides_outOfTables (starts : r.Starts) (apart : ¬ v.Conflicts r) (full : v.Exhausts n r) :
    v.Decides n r (.error (.refused (.outOfTables n))) where
  misaligned := by simp [starts]
  misaligned_named := by simp
  conflicting _ := by simp [apart]
  outOfTables _ _ := iff_of_true rfl full
  alreadyMapped _ _ free := absurd full free
  ok := by simp [full]

theorem decides_alreadyMapped {a : PhysAddr} (starts : r.Starts) (apart : ¬ v.Conflicts r)
    (free : ¬ v.Exhausts n r) (occupied : v.Occupied r a) :
    v.Decides n r (.error (.refused (.alreadyMapped r.va a))) where
  misaligned := by simp [starts]
  misaligned_named := by simp
  conflicting _ := by simp [apart]
  outOfTables _ _ := by simp [free]
  alreadyMapped _ _ _ b := by
    constructor
    · intro same
      cases same
      exact occupied
    · rintro ⟨mapped, -⟩
      cases occupied.1.symm.trans mapped
      rfl
  ok := by
    refine iff_of_false (by simp) ?_
    rintro ⟨-, -, -, unoccupied⟩
    exact unoccupied a occupied

/-- A request that is admitted gives no reason for a refusal. -/
theorem Admits.decides (admitted : v.Admits n r) : v.Decides n r (.ok ()) := by
  have apart := not_conflicts admitted.size
  have free : ¬ v.Exhausts n r := by
    rintro ⟨opens, full⟩
    exact absurd full (Nat.ne_of_lt (admitted.room opens))
  have unoccupied (a : PhysAddr) : ¬ v.Occupied r a := by
    rintro ⟨mapped, other⟩
    rcases admitted.frame with unmapped | same
    · cases mapped.symm.trans unmapped
    · cases mapped.symm.trans same
      exact other rfl
  exact {
    misaligned := by simp [admitted.starts]
    misaligned_named := by simp
    conflicting := by simp [apart]
    outOfTables := by simp [free]
    alreadyMapped := by simp [unoccupied]
    ok := by simp [admitted.starts, apart, free, unoccupied] }

end View

/-! ## Requests -/

namespace AddressSpace

variable {t u : AddressSpace n} {r : PageRequest}

/-- What comes of a request: the answer that its view decides, and the same address space if it is
refused. -/
structure Answered (t : AddressSpace n) (r : PageRequest)
    (outcome : Except (Stop PagingError) Unit × AddressSpace n) : Prop where
  kept : ∀ e u, outcome = (.error e, u) → u = t
  decided : t.view.Decides n r outcome.1

theorem answered_of_refused {e : Stop PagingError} (decided : t.view.Decides n r (.error e)) :
    Answered t r (.error e, t) where
  kept _ _ same := by
    cases same
    rfl
  decided := decided

theorem answered_of_done (sound : t.Sound) (room : t.HasRoom) (done : r.perform t = (.ok (), u)) :
    Answered t r (.ok (), u) where
  kept _ _ same := by cases same
  decided := by
    have shown := sound.shown room r
    rw [done] at shown
    cases shown with
    | done admitted _ => exact admitted.decides

/-- The frame that is in the way is named. -/
theorem answered_of_occupied (starts : r.Starts) (has : t.pagesAt r.slot = some r.size)
    {q : PhysPage r.size} (mapped : t.translate r.va = .ok (some q.base))
    (other : q ≠ .containing r.pa) :
    Answered t r (.error (.refused (.alreadyMapped r.va q.base)), t) := by
  have located : q.locate r.va = q.base := locate_of_aligned starts.1 q
  have occupied : t.view.Occupied r q.base :=
    ⟨mapped, fun same => other (eq_containing_of_locate starts.1 starts.2 (located.trans same))⟩
  exact answered_of_refused (View.decides_alreadyMapped starts (View.not_conflicts (.inr has))
    (View.not_exhausts_of_some has) occupied)

variable {va : VirtAddr} {pa : PhysAddr}

/-- **A small page gets the right answer.** -/
theorem Sound.answered_mapSmall (sound : t.Sound) (room : t.HasRoom) (hva : va.isAligned .kib4 = true)
    (hpa : pa.isAligned .kib4 = true) (f : Flags) :
    Answered t ⟨.kib4, va, pa, f⟩ (mapSmall va pa f t) := by
  have wf := sound.wellFormed
  have course := mapSmall_course wf hva hpa f
  generalize run : mapSmall va pa f t = outcome at course ⊢
  cases course with
  | covered q leaf =>
    have conflicts : t.view.Conflicts ⟨.kib4, va, pa, f⟩ :=
      ⟨.mib4, pagesAt_of_leaf leaf, by simp⟩
    exact answered_of_refused (View.decides_conflicting ⟨hva, hpa⟩ conflicts)
  | exhausted empty full =>
    have no_pages : t.view.pages (.inDirectory va) = none := pagesAt_of_empty empty
    exact answered_of_refused (View.decides_outOfTables ⟨hva, hpa⟩
      (View.not_conflicts (.inl no_pages)) ⟨⟨rfl, no_pages⟩, full⟩)
  | unplaced empty free c no_place =>
    -- There is room for every table of the pool.
    obtain ⟨a, place⟩ := wf.exists_tableAddress room empty free
    rw [place] at no_place
    cases no_place
  | opened empty free a place => exact answered_of_done sound room run
  | occupied i links q entry other =>
    have has : t.view.pages (.inDirectory va) = some .kib4 := links.pagesAt
    have mapped : t.translate va = .ok (some q.base) := by
      rw [translate_of_links (wf.lt_used_of_links links) links, entry, Option.map_some,
        locate_of_aligned hva]
    exact answered_of_occupied (r := ⟨.kib4, va, pa, f⟩) (q := q) ⟨hva, hpa⟩ has mapped other
  | present i links entry => exact answered_of_done sound room run
  | entered i links blank => exact answered_of_done sound room run

/-- **A large page gets the right answer.** -/
theorem Sound.answered_mapLarge (sound : t.Sound) (room : t.HasRoom) (hva : va.isAligned .mib4 = true)
    (hpa : pa.isAligned .mib4 = true) (f : Flags) :
    Answered t ⟨.mib4, va, pa, f⟩ (mapLarge va pa f t) := by
  have course := mapLarge_course t hva hpa f
  generalize run : mapLarge va pa f t = outcome at course ⊢
  cases course with
  | linked q link =>
    have conflicts : t.view.Conflicts ⟨.mib4, va, pa, f⟩ :=
      ⟨.kib4, pagesAt_of_link link, by simp⟩
    exact answered_of_refused (View.decides_conflicting ⟨hva, hpa⟩ conflicts)
  | occupied q leaf other =>
    have has : t.view.pages (.inDirectory va) = some .mib4 := pagesAt_of_leaf leaf
    have mapped : t.translate va = .ok (some q.base) := by
      rw [translate_of_leaf leaf, locate_of_aligned hva]
    exact answered_of_occupied (r := ⟨.mib4, va, pa, f⟩) (q := q) ⟨hva, hpa⟩ has mapped other
  | present leaf => exact answered_of_done sound room run
  | entered empty => exact answered_of_done sound room run

theorem Sound.answered (sound : t.Sound) (room : t.HasRoom) (r : PageRequest) :
    Answered t r (r.perform t) := by
  obtain ⟨z, va, pa, f⟩ := r
  by_cases starts : va.isAligned z = true ∧ pa.isAligned z = true
  · obtain ⟨hva, hpa⟩ := starts
    cases z with
    | kib4 => exact sound.answered_mapSmall room hva hpa f
    | mib4 => exact sound.answered_mapLarge room hva hpa f
  · show Answered t _ (mapPage z va pa f t)
    rw [mapPage_of_misaligned starts f t]
    exact answered_of_refused (View.decides_misaligned starts)

/-- **A request for one page gets the right answer, and a refused one leaves no trace.** The answer
names the first demand that is not met, or is a success if there is none. -/
theorem Reachable.perform_decided (h : t.Reachable) (r : PageRequest) :
    (∀ e u, r.perform t = (.error e, u) → u = t) ∧ t.view.Decides n r (r.perform t).1 := by
  obtain ⟨sound, room⟩ := h.sound
  have answered := sound.answered room r
  exact ⟨answered.kept, answered.decided⟩

/-- A page of `mixedHistory`, in another frame. -/
def movedPage : PageRequest := ⟨.kib4, ⟨0x1000⟩, ⟨0x6000⟩, .kernel⟩

/-- It stays in the frame that it has. -/
theorem movedPage_after_mixedHistory :
    movedPage.perform ((empty 1).afterAll mixedHistory) =
        (.error (.refused (.alreadyMapped ⟨0x1000⟩ ⟨0x5000⟩)), (empty 1).afterAll mixedHistory) ∧
      ((empty 1).afterAll mixedHistory).view.Decides 1 movedPage
        (.error (.refused (.alreadyMapped ⟨0x1000⟩ ⟨0x5000⟩))) := by
  have reachable := Reachable.empty.afterAll mixedHistory (n := 1) (by decide)
  have answer : (movedPage.perform ((empty 1).afterAll mixedHistory)).1 =
      .error (.refused (.alreadyMapped ⟨0x1000⟩ ⟨0x5000⟩)) := by decide +kernel
  obtain ⟨kept, decided⟩ := reachable.perform_decided movedPage
  generalize (empty 1).afterAll mixedHistory = t at *
  have outcome : movedPage.perform t = (.error _, (movedPage.perform t).2) := Prod.ext answer rfl
  rw [answer] at decided
  refine ⟨?_, decided⟩
  rw [outcome, kept _ _ outcome]

end AddressSpace

end ProtectedBoot.Paging
