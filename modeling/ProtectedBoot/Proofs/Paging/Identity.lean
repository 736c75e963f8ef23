import ProtectedBoot.Proofs.Paging.Granularity
import ProtectedBoot.Proofs.Stack

/-!
# What stays where it is

Code goes on running when paging is turned on only if the addresses it uses translate to themselves. In
a boot address space whose upper mapping is moved at all, those are the addresses below the end of low
memory (`identityMaps_iff_of_build`): an address of the upper mapping translates to one further down.
So the addresses that stay are an initial run, and a stack of which the last address stays does so in
whole (`bounds_suffice`).
-/

namespace ProtectedBoot

namespace Paging

variable {n : Nat} {t u : AddressSpace n} {base : PhysAddr} {c : PagingConfig}
  {report : PagingSummary × Log.Record}

/-- **The addresses that stay where they are** are those of low memory. -/
theorem identityMaps_iff_of_build (moved : c.virtOffset ≠ 0)
    (done : build base c t = (.ok report, u)) {a : PhysAddr} :
    u.identityMaps a = .ok true ↔ a.toNat < c.lowStop := by
  have same : (a.recast .virtual).toNat = a.toNat := rfl
  rw [AddressSpace.identityMaps_eq_true_iff]
  constructor
  · intro stays
    rcases range_of_translate done stays with ⟨low, -⟩ | ⟨-, -, distance⟩
    · exact low
    · -- No address of the upper mapping is at distance zero from where it leads.
      have positive : c.virtOffset.toNat ≠ 0 := by
        intro zero
        exact moved (BitVec.eq_of_toNat_eq zero)
      omega
  · intro low
    exact translate_low_of_build done low

/-- What lies before an address that stays where it is stays there, too. -/
theorem identityMaps_of_le (moved : c.virtOffset ≠ 0)
    (done : build base c t = (.ok report, u)) {a b : PhysAddr} (le : a.toNat ≤ b.toNat)
    (stays : u.identityMaps b = .ok true) : u.identityMaps a = .ok true := by
  rw [identityMaps_iff_of_build moved done] at stays ⊢
  exact Nat.lt_of_le_of_lt le stays

end Paging

namespace StackRegion

open Paging

/-- **To check the ends of a stack is enough.** The bounds of a block with at least one byte are the
least and the greatest address in it, even if the block leaves the address space; and if a build went
well that moves the upper mapping at all, whatever was mapped before, and the two bounds stay where they
are, then so does every address of the block. -/
theorem bounds_suffice (r : StackRegion) (some_byte : 1 ≤ r.size.toNat) :
    (r.contains r.bounds.1 = true ∧
      ∀ a, r.contains a = true → r.bounds.1.toNat ≤ a.toNat) ∧
    (r.contains r.bounds.2 = true ∧
      ∀ a, r.contains a = true → a.toNat ≤ r.bounds.2.toNat) ∧
    ∀ (n : Nat) (base : PhysAddr) (c : PagingConfig) (t u : AddressSpace n)
      (report : PagingSummary × Log.Record), c.virtOffset ≠ 0 →
      build base c t = (.ok report, u) →
      u.identityMaps r.bounds.1 = .ok true → u.identityMaps r.bounds.2 = .ok true →
      ∀ a, r.contains a = true → u.identityMaps a = .ok true := by
  have ends (a : PhysAddr) := contains_iff_bounds some_byte (a := a)
  have ordered := bounds_le some_byte
  refine ⟨⟨?first, ?least⟩, ⟨?last, ?greatest⟩, ?stays⟩
  case first =>
    exact (ends _).2 ⟨Nat.le_refl _, ordered⟩
  case least =>
    intro a inside
    exact ((ends a).1 inside).1
  case last =>
    exact (ends _).2 ⟨ordered, Nat.le_refl _⟩
  case greatest =>
    intro a inside
    exact ((ends a).1 inside).2
  case stays =>
    intro n base c t u report moved done _ last_stays a inside
    exact identityMaps_of_le moved done ((ends a).1 inside).2 last_stays

/-- The stack at `0x9000` below an image that is mapped with a large page; and the bounds of a block that
leaves the address space. -/
theorem bounds_suffice_low :
    (∃ report u, build ⟨0x200000⟩ lowImage (AddressSpace.empty 0) = (.ok report, u) ∧
      ∀ a : PhysAddr, 0x9000 ≤ a.toNat → a.toNat < 0xD000 → u.identityMaps a = .ok true) ∧
    ∀ a, (⟨⟨0xFFFFF000⟩, 0x2000⟩ : StackRegion).contains a = true → a.toNat ≤ 0xFFFFFFFF := by
  have goes_well : (build ⟨0x200000⟩ lowImage (AddressSpace.empty 0)).1.isOk = true := by
    decide +kernel
  refine ⟨?_, ((bounds_suffice ⟨⟨0xFFFFF000⟩, 0x2000⟩ (by decide)).2.1).2⟩
  rcases run : build ⟨0x200000⟩ lowImage (AddressSpace.empty 0) with ⟨e | report, u⟩
  · rw [run] at goes_well
    cases goes_well
  · have moved : lowImage.virtOffset ≠ 0 := by decide
    obtain ⟨-, -, stays⟩ := bounds_suffice ⟨⟨0x9000⟩, 0x4000⟩ (by decide)
    refine ⟨report, u, rfl, ?_⟩
    intro a first_le lt
    exact stays 0 _ _ _ _ _ moved run ((identityMaps_iff_of_build moved run).2 (by decide))
      ((identityMaps_iff_of_build moved run).2 (by decide)) a (contains_iff.2 ⟨first_le, lt⟩)

end StackRegion

end ProtectedBoot
