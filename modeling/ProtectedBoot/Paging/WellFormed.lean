import ProtectedBoot.Paging.AddressSpace

/-!
# Well-formed address spaces

The directory finds its tables by address, and the pool counts how many it gave away; nothing but the
history of an address space keeps the two in step. `WellFormed` says that they are: the links of the
directory and the tables that were taken correspond to each other, one to one, and a table that was not
taken has never been written to.
-/

namespace ProtectedBoot.Paging.AddressSpace

variable {n : Nat}

/-- Slot `s` of the directory links table `i` of the pool. -/
def Links (t : AddressSpace n) (s : Slot) (i : Nat) : Prop :=
  ∃ p, (t.dirEntry s).kind = some (.link p) ∧
    p.base.toNat = t.base.toNat + 4096 * (i + 1)

/-- The directory and the pool are in step. -/
structure WellFormed (t : AddressSpace n) : Prop where
  base_aligned : 4096 ∣ t.base.toNat
  /-- A link leads to a table that was taken. -/
  link_taken : ∀ s p, (t.dirEntry s).kind = some (.link p) → ∃ i, i < t.used ∧ t.Links s i
  /-- A table that was taken is linked. -/
  taken_linked : ∀ i, i < t.used → ∃ s, t.Links s i
  /-- No two slots share a table. -/
  link_unique : ∀ s r i, t.Links s i → t.Links r i → s = r
  /-- A table that was not taken is empty. -/
  rest_empty : ∀ i : Fin n, t.used ≤ i.val → t.tables.get i = .empty

theorem dirEntry_empty (s : Slot) : (empty n).dirEntry s = .empty := by
  simp only [dirEntry, empty, Directory.empty, Fin.getElem_fin, Vector.getElem_replicate]

/-- **The empty address space is well-formed.** -/
theorem wellFormed_empty (n : Nat) : WellFormed (empty n) where
  base_aligned := ⟨0, rfl⟩
  link_taken s p h := by
    rw [dirEntry_empty, DirEntry.kind_empty] at h
    cases h
  taken_linked i h := absurd h (Nat.not_lt_zero i)
  link_unique s r i h _ := by
    obtain ⟨p, hp, _⟩ := h
    rw [dirEntry_empty, DirEntry.kind_empty] at hp
    cases hp
  rest_empty i _ := by
    exact Vector.getElem_replicate i.isLt

end ProtectedBoot.Paging.AddressSpace
