import ProtectedBoot.Word

/-!
# Alignment

Rounding to a multiple of a power of two is a mask: with `a` the `k`-th power of two, the word
`a - 1` has exactly the `k` low bits set. `toNat_alignDown`, `alignUp?_eq_some_iff` and
`isAligned_iff_dvd` say what the masks compute over the naturals.

The plain functions are meant for alignments that are powers of two by construction. `alignUp`,
`alignDown` and `aligned` in `Checked` take any word for an alignment and fault where rounding is
not defined.
-/

namespace ProtectedBoot

/-- The largest multiple of `a` that is not above `v`. -/
def alignDown (v a : Word) : Word := v &&& ~~~(a - 1)

/-- The least multiple of `a` that is not below `v`, if it is a word. -/
def alignUp? (v a : Word) : Option Word := (add? v (a - 1)).map (· &&& ~~~(a - 1))

/-- Whether no bit below the alignment is set. -/
def isAligned (v a : Word) : Bool := v &&& (a - 1) == 0

/-- Whether exactly one bit of `a` is set. -/
def isPowerOfTwo (a : Word) : Bool := a != 0 && a &&& (a - 1) == 0

/-! ## Rounding to an arbitrary word -/

namespace Checked

/-- Round up, provided that `a` is a power of two. -/
def alignUp (v a : Word) : Except Fault (Option Word) :=
  if isPowerOfTwo a then .ok (alignUp? v a) else .error .alignmentNotPowerOfTwo

/-- Round down, provided that `a` is a power of two. -/
def alignDown (v a : Word) : Except Fault Word :=
  if isPowerOfTwo a then .ok (ProtectedBoot.alignDown v a) else .error .alignmentNotPowerOfTwo

/-- Test the bits that `a - 1` has set; there is no such word for `a = 0`. -/
def aligned (v a : Word) : Except Fault Bool := do
  let mask ← checkedSub a 1
  return v &&& mask == 0

end Checked

/-! ## What the masks compute -/

variable {v a r : Word}

theorem toNat_mask (ha : a.toNat.isPowerOfTwo) : (a - 1).toNat = a.toNat - 1 := by
  rcases ha with ⟨k, hk⟩
  have h : (1 : Word).toNat ≤ a.toNat := by
    rw [hk]
    exact Nat.one_le_two_pow
  rw [BitVec.toNat_sub_of_le (BitVec.le_def.2 h)]
  rfl

theorem toNat_and_mask (ha : a.toNat.isPowerOfTwo) (v : Word) :
    (v &&& (a - 1)).toNat = v.toNat % a.toNat := by
  rw [BitVec.toNat_and, toNat_mask ha]
  rcases ha with ⟨k, hk⟩
  rw [hk, Nat.and_two_pow_sub_one_eq_mod]

theorem isAligned_iff_mod (ha : a.toNat.isPowerOfTwo) :
    isAligned v a = true ↔ v.toNat % a.toNat = 0 := by
  rw [isAligned, beq_iff_eq, ← BitVec.toNat_inj, toNat_and_mask ha]
  rfl

/-- **The mask tests divisibility.** -/
theorem isAligned_iff_dvd (ha : a.toNat.isPowerOfTwo) :
    isAligned v a = true ↔ a.toNat ∣ v.toNat := by
  rw [isAligned_iff_mod ha, Nat.dvd_iff_mod_eq_zero]

/-- **Clearing the low bits rounds down.** -/
theorem toNat_and_not_mask (ha : a.toNat.isPowerOfTwo) (v : Word) :
    (v &&& ~~~(a - 1)).toNat = v.toNat - v.toNat % a.toNat := by
  have split : v = (v &&& ~~~(a - 1)) + (v &&& (a - 1)) := by
    rw [BitVec.add_eq_or_of_and_eq_zero]
    · ext i hi
      simp only [BitVec.getElem_or, BitVec.getElem_and, BitVec.getElem_not]
      cases v[i] <;> cases (a - 1)[i] <;> rfl
    · ext i hi
      simp only [BitVec.getElem_and, BitVec.getElem_not, BitVec.getElem_zero]
      cases v[i] <;> cases (a - 1)[i] <;> rfl
  have hm := toNat_and_mask ha v
  have hle : (v &&& ~~~(a - 1)).toNat ≤ v.toNat := by
    rw [BitVec.toNat_and]
    exact Nat.and_le_left
  have hv := v.isLt
  have hle' := Nat.mod_le v.toNat a.toNat
  have := congrArg BitVec.toNat split
  rw [BitVec.toNat_add, hm] at this
  omega

theorem toNat_alignDown (ha : a.toNat.isPowerOfTwo) (v : Word) :
    (alignDown v a).toNat = v.toNat - v.toNat % a.toNat :=
  toNat_and_not_mask ha v

/-- **Rounding up** succeeds exactly when the least multiple is a word, and yields it. -/
theorem alignUp?_eq_some_iff (ha : a.toNat.isPowerOfTwo) :
    alignUp? v a = some r ↔
      v.toNat + (a.toNat - 1) < 0x100000000 ∧
        r.toNat = (v.toNat + (a.toNat - 1)) - (v.toNat + (a.toNat - 1)) % a.toNat := by
  rw [alignUp?, Option.map_eq_some_iff]
  constructor
  · rintro ⟨s, hs, rfl⟩
    rw [add?_eq_some_iff, toNat_mask ha] at hs
    rw [toNat_and_not_mask ha, hs]
    exact ⟨s.isLt, rfl⟩
  · rintro ⟨hlt, hr⟩
    have hsum : (v + (a - 1)).toNat = v.toNat + (a.toNat - 1) := by
      rw [BitVec.toNat_add, toNat_mask ha]
      exact Nat.mod_eq_of_lt hlt
    refine ⟨v + (a - 1), ?_, ?_⟩
    · rw [add?_eq_some_iff, hsum, toNat_mask ha]
    · rw [← BitVec.toNat_inj, toNat_and_not_mask ha, hsum, hr]

theorem alignUp?_eq_none_iff (ha : a.toNat.isPowerOfTwo) :
    alignUp? v a = none ↔ 0x100000000 ≤ v.toNat + (a.toNat - 1) := by
  rw [alignUp?, Option.map_eq_none_iff, ← toNat_mask ha]
  exact add?_eq_none_iff

end ProtectedBoot
