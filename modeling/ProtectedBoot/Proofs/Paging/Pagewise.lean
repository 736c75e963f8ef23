import ProtectedBoot.Proofs.Paging.Confined
import ProtectedBoot.Proofs.Paging.Decision

/-!
# A range is the sequence of its pages

The loop that maps a range steps through it with an offset in words, until the offset reaches the
length or the next one does not fit. The length is a whole number of pages there, so it always ends
in the first way, with one turn for each page (`mapFrom_eq_mapPages`). Each turn computes the
addresses of its page from the start of the range and the offset. A range that reaches past the end
of its space is refused before the loop is entered, so none of these sums overflows, even if the range
ends where the space does, and the loop performs the requests of `PageRequest.ofRange` one after the
other (`mapPages_eq_performAll`).

Requests that are performed in turn go well up to the first that is refused, and that one leaves no
trace (`Sound.performAll_ends`). So a range that is not mapped in whole is mapped up to the page that
is in its way (`Reachable.mapRange_pagewise`).
-/

namespace ProtectedBoot.Paging

open AddressSpace

variable {n : Nat} {t : AddressSpace n} {z : PageSize} {va : VirtAddr} {pa : PhysAddr} {len : Word}
  {f : Flags}

/-! ## The answers to a request -/

/-- No page is refused for the length of a range. -/
theorem View.Decides.ne_addressOverflow {v : View} {r : PageRequest}
    (decided : v.Decides n r (.error (.refused .addressOverflow))) : False := by
  have starts : r.Starts := by
    by_contra off
    obtain ⟨a, same⟩ := decided.misaligned.2 off
    cases same
  have apart : ¬ v.Conflicts r := fun conflicts => by
    cases (decided.conflicting starts).2 conflicts
  have free : ¬ v.Exhausts n r := fun full => by
    cases (decided.outOfTables starts apart).2 full
  have unoccupied (a : PhysAddr) : ¬ v.Occupied r a := fun occupied => by
    cases (decided.alreadyMapped starts apart free a).2 occupied
  cases decided.ok.2 ⟨starts, apart, free, unoccupied⟩

/-! ## Requests in turn -/

/-- **Requests in turn** all go well, or they go well up to one that is refused, and nothing happens
after that. -/
theorem AddressSpace.Sound.performAll_ends (sound : t.Sound) (room : t.HasRoom)
    (l : List PageRequest) :
    (∃ u, PageRequest.performAll l t = (.ok (), u)) ∨
      ∃ done r rest reason u, l = done ++ r :: rest ∧
        PageRequest.performAll done t = (.ok (), u) ∧
        r.perform u = (.error (.refused reason), u) ∧ reason ≠ .addressOverflow ∧
        PageRequest.performAll l t = (.error (.refused reason), u) := by
  induction l generalizing t with
  | nil => exact .inl ⟨t, rfl⟩
  | cons r rest ih =>
    have in_turn (l : List PageRequest) : PageRequest.performAll (r :: l) t =
        (r.perform >>= fun _ => PageRequest.performAll l : Edit n Unit) t := rfl
    have answered := sound.answered room r
    rcases first : r.perform t with ⟨e | _, t'⟩
    · right
      obtain rfl := answered.kept e t' first
      have kept := mapPage_room_triple r.size r.va r.pa r.flags t' ⟨sound, room⟩
      rw [show mapPage r.size r.va r.pa r.flags t' = _ from first] at kept
      obtain ⟨⟨reason, rfl⟩, -⟩ := kept
      refine ⟨[], r, rest, reason, t', rfl, rfl, first, ?_, ?_⟩
      · rintro rfl
        have decided := answered.decided
        rw [first] at decided
        exact decided.ne_addressOverflow
      · rw [in_turn, Attempt.bind_apply, first]
    · obtain ⟨sound', room'⟩ := sound.after_perform room first
      rcases ih sound' room' with
        ⟨u, all⟩ | ⟨done, q, others, reason, u, rfl, earlier, stops, other, whole⟩
      · refine .inl ⟨u, ?_⟩
        rw [in_turn, Attempt.bind_apply, first]
        exact all
      · refine .inr ⟨r :: done, q, others, reason, u, rfl, ?_, stops, other, ?_⟩
        · rw [in_turn, Attempt.bind_apply, first]
          exact earlier
        · rw [in_turn, Attempt.bind_apply, first]
          exact whole

/-! ## The loop -/

/-- **The loop performs the requests for its pages in turn.** -/
theorem mapPages_eq_performAll {total : Nat} (virt_fits : va.toNat + total * z.bytes.toNat ≤ 0x100000000)
    (phys_fits : pa.toNat + total * z.bytes.toNat ≤ 0x100000000) (f : Flags) :
    (mapPages z va pa f total 0 : Edit n Nat) =
      (PageRequest.performAll (PageRequest.ofRange z va pa f total) >>= fun _ => pure total) := by
  -- The pages that are done and those that remain make up the range all along.
  suffices loop : ∀ remaining done, done + remaining = total →
      (mapPages z va pa f remaining done : Edit n Nat) =
        (PageRequest.performAll ((List.range' done remaining).map fun k =>
          ⟨z, .ofNat (va.toNat + k * z.bytes.toNat), .ofNat (pa.toNat + k * z.bytes.toNat), f⟩) >>=
            fun _ => pure total) by
    rw [loop total 0 (Nat.zero_add total), ← List.range_eq_range']
    rfl
  intro remaining
  induction remaining with
  | zero =>
    rintro done rfl
    rfl
  | succ remaining ih =>
    intro done all
    have inside : (done + 1) * z.bytes.toNat ≤ total * z.bytes.toNat :=
      Nat.mul_le_mul_right _ (by omega)
    have page_pos := z.bytes_pos
    obtain ⟨v, p, v_at, p_at, run⟩ := mapPages_succ (n := n) f remaining
      (Nat.le_trans (Nat.add_le_add_left inside _) virt_fits)
      (Nat.le_trans (Nat.add_le_add_left inside _) phys_fits)
    rw [Nat.succ_mul] at inside
    have v_eq : v = .ofNat (va.toNat + done * z.bytes.toNat) :=
      Address.ext_toNat (by rw [v_at, Address.toNat_ofNat (by omega)])
    have p_eq : p = .ofNat (pa.toNat + done * z.bytes.toNat) :=
      Address.ext_toNat (by rw [p_at, Address.toNat_ofNat (by omega)])
    rw [run, ih (done + 1) (by omega), List.range'_succ, List.map_cons, PageRequest.performAll,
      bind_assoc, v_eq, p_eq]
    rfl

/-! ## Ranges -/

theorem fits_eq_true_iff {s : Space} {a : Address s} : fits a len = true ↔ ¬ Overlong a len := by
  have a_lt := a.toNat_lt
  constructor
  · intro inside
    have reach := toNat_add_le_of_fits inside
    rintro ⟨-, past⟩
    omega
  · intro inside
    refine fits_of_le ?_
    by_contra past
    exact inside ⟨by omega, by omega⟩

/-- How a request for a range goes. -/
inductive RangeCourse (t : AddressSpace n) (z : PageSize) (va : VirtAddr) (pa : PhysAddr) (len : Word)
    (f : Flags) : Except (Stop PagingError) Nat × AddressSpace n → Prop where
  /-- The range is no whole number of pages. -/
  | broken (indivisible : ¬ z.bytes.toNat ∣ len.toNat) :
    RangeCourse t z va pa len f (.error (.refused (.misaligned len z.bytes)), t)
  /-- The range does not fit into one of the two spaces. -/
  | overlong (whole : z.bytes.toNat ∣ len.toNat) (past : Overlong va len ∨ Overlong pa len) :
    RangeCourse t z va pa len f (.error (.refused .addressOverflow), t)
  /-- All pages of the range are mapped. -/
  | mapped {u : AddressSpace n} (whole : z.bytes.toNat ∣ len.toNat)
      (inside : ¬ (Overlong va len ∨ Overlong pa len))
      (all : PageRequest.performAll (PageRequest.ofRange z va pa f (len.toNat / z.bytes.toNat)) t =
        (.ok (), u)) :
    RangeCourse t z va pa len f (.ok (len.toNat / z.bytes.toNat), u)
  /-- A page is refused, and those before it are mapped. -/
  | stopped {earlier later : List PageRequest} {r : PageRequest} {reason : PagingError}
      {u : AddressSpace n} (whole : z.bytes.toNat ∣ len.toNat)
      (inside : ¬ (Overlong va len ∨ Overlong pa len))
      (pages : PageRequest.ofRange z va pa f (len.toNat / z.bytes.toNat) = earlier ++ r :: later)
      (before : PageRequest.performAll earlier t = (.ok (), u))
      (stops : r.perform u = (.error (.refused reason), u)) (other : reason ≠ .addressOverflow) :
    RangeCourse t z va pa len f (.error (.refused reason), u)

/-- **How a range is mapped.** -/
theorem AddressSpace.Sound.mapRange_course (sound : t.Sound) (room : t.HasRoom) (z : PageSize)
    (va : VirtAddr) (pa : PhysAddr) (len : Word) (f : Flags) :
    RangeCourse t z va pa len f (mapRange z va pa len f t) := by
  by_cases whole : z.bytes.toNat ∣ len.toNat
  · have aligned := (isAligned_iff_dvd z.bytes_isPowerOfTwo).2 whole
    by_cases past : Overlong va len ∨ Overlong pa len
    · have long : ¬ (fits va len && fits pa len) = true := by
        rw [Bool.and_eq_true, fits_eq_true_iff, fits_eq_true_iff, ← not_or]
        exact not_not_intro past
      rw [show mapRange z va pa len f t = (.error (.refused .addressOverflow), t) by
        simp [mapRange, aligned, long, Attempt.refuse]]
      exact .overlong whole past
    · have count : len.toNat / z.bytes.toNat * z.bytes.toNat = len.toNat := Nat.div_mul_cancel whole
      obtain ⟨virt_inside, phys_inside⟩ := not_or.1 past
      have virt_fits := toNat_add_le_of_fits (fits_eq_true_iff.2 virt_inside)
      have phys_fits := toNat_add_le_of_fits (fits_eq_true_iff.2 phys_inside)
      rw [mapRange_eq_mapPages whole virt_fits phys_fits, mapPages_eq_performAll (by rwa [count])
        (by rwa [count]), Attempt.bind_apply]
      rcases sound.performAll_ends room (PageRequest.ofRange z va pa f (len.toNat / z.bytes.toNat)) with
        ⟨u, all⟩ | ⟨earlier, r, later, reason, u, pages, before, stops, other, run⟩
      · rw [all]
        exact .mapped whole past all
      · rw [run]
        exact .stopped whole past pages before stops other
  · have aligned : isAligned len z.bytes = false := by
      rw [← Bool.not_eq_true, isAligned_iff_dvd z.bytes_isPowerOfTwo]
      exact whole
    rw [show mapRange z va pa len f t = (.error (.refused (.misaligned len z.bytes)), t) by
      simp [mapRange, aligned, Attempt.refuse]]
    exact .broken whole

/-- **A range is mapped as its pages are in turn.** Whatever happened before, mapping a range never
faults. A length that is no whole number of pages is refused, and so is a range that reaches past the
end of one of the two spaces, and either leaves everything as it was; no other range is refused for
that. Every other range comes to what its pages come to, one after the other: either all of them go
well, or those do that come before one that is refused, and then the range is refused for the same
reason, with exactly the earlier pages mapped. -/
theorem AddressSpace.Reachable.mapRange_pagewise (h : t.Reachable) (z : PageSize) (va : VirtAddr)
    (pa : PhysAddr) (len : Word) (f : Flags) :
    (∀ c, (mapRange z va pa len f t).1 ≠ .error (.fault c)) ∧
    (¬ z.bytes.toNat ∣ len.toNat →
      mapRange z va pa len f t = (.error (.refused (.misaligned len z.bytes)), t)) ∧
    (z.bytes.toNat ∣ len.toNat → Overlong va len ∨ Overlong pa len →
      mapRange z va pa len f t = (.error (.refused .addressOverflow), t)) ∧
    ((mapRange z va pa len f t).1 = .error (.refused .addressOverflow) →
      z.bytes.toNat ∣ len.toNat ∧ (Overlong va len ∨ Overlong pa len)) ∧
    (z.bytes.toNat ∣ len.toNat → ¬ (Overlong va len ∨ Overlong pa len) →
      (∀ k, k < len.toNat / z.bytes.toNat → va.toNat + k * z.bytes.toNat < 0x100000000 ∧
        pa.toNat + k * z.bytes.toNat < 0x100000000) ∧
      ((∃ u, PageRequest.performAll (PageRequest.ofRange z va pa f (len.toNat / z.bytes.toNat)) t =
            (.ok (), u) ∧
          mapRange z va pa len f t = (.ok (len.toNat / z.bytes.toNat), u)) ∨
        ∃ earlier r later e u,
          PageRequest.ofRange z va pa f (len.toNat / z.bytes.toNat) = earlier ++ r :: later ∧
          PageRequest.performAll earlier t = (.ok (), u) ∧ r.perform u = (.error e, u) ∧
          mapRange z va pa len f t = (.error e, u))) := by
  obtain ⟨sound, room⟩ := h.sound
  have course := sound.mapRange_course room z va pa len f
  generalize mapRange z va pa len f t = outcome at course ⊢
  refine ⟨?faultless, ?broken, ?overlong, ?only, fun whole inside => ⟨?addresses, ?in_turn⟩⟩
  case faultless => cases course <;> simp
  case broken =>
    intro indivisible
    cases course with
    | broken => rfl
    | overlong whole | mapped whole | stopped whole => exact absurd whole indivisible
  case overlong =>
    intro whole past
    cases course with
    | broken indivisible => exact absurd whole indivisible
    | overlong => rfl
    | mapped _ inside | stopped _ inside => exact absurd past inside
  case only =>
    intro refused
    cases course with
    | broken => cases refused
    | overlong whole past => exact ⟨whole, past⟩
    | mapped => cases refused
    | stopped _ _ _ _ _ other =>
      cases refused
      exact absurd rfl other
  case addresses =>
    intro k hk
    have page_pos : 0 < z.bytes.toNat := by cases z <;> decide
    have total : (k + 1) * z.bytes.toNat ≤ len.toNat := (Nat.le_div_iff_mul_le page_pos).1 hk
    obtain ⟨virt_inside, phys_inside⟩ := not_or.1 inside
    have virt_fits := toNat_add_le_of_fits (fits_eq_true_iff.2 virt_inside)
    have phys_fits := toNat_add_le_of_fits (fits_eq_true_iff.2 phys_inside)
    rw [Nat.succ_mul] at total
    omega
  case in_turn =>
    cases course with
    | broken indivisible => exact absurd whole indivisible
    | overlong _ past => exact absurd past inside
    | mapped _ _ all => exact .inl ⟨_, all, rfl⟩
    | stopped _ _ pages before stops => exact .inr ⟨_, _, _, _, _, pages, before, stops, rfl⟩

/-- The last two pages of memory, after some other requests: a range may end where memory does. -/
theorem mapRange_pagewise_up_to_the_end :
    ∃ u, PageRequest.performAll [⟨.mib4, ⟨0xFF800000⟩, ⟨0xFF800000⟩, .kernel⟩,
          ⟨.mib4, ⟨0xFFC00000⟩, ⟨0xFFC00000⟩, .kernel⟩] ((empty 1).afterAll mixedHistory) = (.ok (), u) ∧
      mapRange .mib4 ⟨0xFF800000⟩ ⟨0xFF800000⟩ 0x800000 .kernel ((empty 1).afterAll mixedHistory) =
        (.ok 2, u) := by
  have reachable := Reachable.empty.afterAll mixedHistory (n := 1) (by decide)
  have goes_well : (mapRange .mib4 ⟨0xFF800000⟩ ⟨0xFF800000⟩ 0x800000 .kernel
      ((empty 1).afterAll mixedHistory)).1 = .ok 2 := by decide +kernel
  obtain ⟨-, -, -, -, in_turn⟩ :=
    reachable.mapRange_pagewise .mib4 ⟨0xFF800000⟩ ⟨0xFF800000⟩ 0x800000 .kernel
  rcases (in_turn (by decide) (by simp [Overlong, Address.toNat])).2 with
    ⟨u, all, run⟩ | ⟨_, _, _, e, u, -, -, -, run⟩
  · exact ⟨u, all, run⟩
  · rw [run] at goes_well
    cases goes_well

end ProtectedBoot.Paging
