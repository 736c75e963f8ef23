import ProtectedBoot.Proofs.Paging.Overrun

/-!
# A build fails only when it must

`Feasible` is not only enough for a build to go well, it is needed (`feasible_of_build`). And a build
that does not go well is refused, and does not fault, as long as the image does not end before it
starts and the block has room (`build_refused`): tables have addresses, and no range is shorter than
nothing. So a build fails only when it must (`build_decides`).
-/

namespace ProtectedBoot.Paging

open AddressSpace

variable {n : Nat} {base : PhysAddr} {c : PagingConfig}

/-- Where there is room and the image does not end before it starts, a build that does not go well is
refused, whatever was mapped before. -/
theorem build_refused (ordered : c.kernelStart.toNat ≤ c.kernelEnd.toNat) (fits : BlockFits n base)
    (t : AddressSpace n) :
    (∃ report u, build base c t = (.ok report, u)) ∨ ∃ r u, build base c t = (.error (.refused r), u) := by
  have course := build_course base c t
  generalize build base c t = outcome at course ⊢
  rcases outcome with ⟨⟨r | f⟩ | report, u⟩
  · exact .inr ⟨r, u, rfl⟩
  · rcases course.reason_of_fault rfl with ⟨-, reversed⟩ | ⟨-, overruns⟩
    · exact absurd (c.imageFirst_le_imageStop ordered) (Nat.not_le.2 reversed.image_lt)
    · have beyond := overruns.beyond
      rw [← tableCount_of_lt beyond, tableCount_of_fits fits] at beyond
      exact absurd beyond (Nat.lt_irrefl n)
  · exact .inl ⟨report, u, rfl⟩

/-- **A build fails only when it must.** Of a block that has room and an image that does not end before
it starts, whatever was mapped before: the build goes well just where it is feasible, and everywhere
else it is refused. -/
theorem build_decides (ordered : c.kernelStart.toNat ≤ c.kernelEnd.toNat) (fits : BlockFits n base)
    (t : AddressSpace n) :
    ((∃ report u, build base c t = (.ok report, u)) ↔ c.Feasible n base) ∧
      (¬ c.Feasible n base → ∃ r u, build base c t = (.error (.refused r), u)) := by
  have needed : (∃ report u, build base c t = (.ok report, u)) → c.Feasible n base := by
    rintro ⟨report, u, done⟩
    apply feasible_of_build done
    intro small
    exact Nat.le_trans (slotsTouched_le_used done small) u.used_le
  refine ⟨⟨needed, fun feasible => build_of_feasible feasible ordered fits t⟩, ?_⟩
  intro infeasible
  exact (build_refused ordered fits t).resolve_left fun done => infeasible (needed done)

/-- An image with its two ranges in two slots fits into two tables, and not into one. -/
theorem lowImage_decides :
    (∃ report u, build ⟨0x200000⟩ (lowImage.withPages .kib4) (empty 2) = (.ok report, u)) ∧
      ∃ r u, build ⟨0x200000⟩ (lowImage.withPages .kib4) (empty 1) = (.error (.refused r), u) := by
  have touched : (lowImage.withPages .kib4).slotsTouched = 2 := by decide +kernel
  have two : (lowImage.withPages .kib4).Feasible 2 ⟨0x200000⟩ := {
    base_aligned := by decide
    low_lt := by decide
    image_lt := by decide
    upper_first_lt := by decide
    upper_stop_lt := by decide
    offset_whole := .inr (by decide)
    consistent := .inr fun a below => by
      have low : (lowImage.withPages .kib4).lowStop = 0x2000 := by decide
      have upper : (lowImage.withPages .kib4).upperFirst = 0xC0101000 := by decide
      omega
    pool := fun _ => Nat.le_of_eq touched }
  have not_one : ¬ (lowImage.withPages .kib4).Feasible 1 ⟨0x200000⟩ := by
    intro feasible
    have pool := feasible.pool rfl
    rw [touched] at pool
    exact absurd pool (by decide)
  exact ⟨(build_decides (by decide) (by decide) (empty 2)).1.2 two,
    (build_decides (by decide) (by decide) (empty 1)).2 not_one⟩

end ProtectedBoot.Paging
