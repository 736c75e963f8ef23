import Mathlib.Order.Bounds.Basic
import ProtectedBoot.Align

/-!
# Rounding is exact

A multiple of the alignment that is less than one step away from a number is the nearest one on its
side (`isLeast_of_close`, `isGreatest_of_close`). What the masks compute is such a multiple. Rounding up
has no answer just where the sum with the mask does not fit a word, and the nearest multiple is then the
end of the address space, which every power of two divides (`dvd_end`).

So a multiple is not below a number if and only if it is not below the number rounded up, and not above
it if and only if it is not above the number rounded down (`le_iff_alignUp?_le`, `le_alignDown_iff`).
`rounding_exact` says all of this of the functions that check their alignment.
-/

namespace ProtectedBoot

variable {v a r x y : Word}

/-! ## The alignments that pass the check -/

/-- Exactly the powers of two have no bit in common with their predecessor. -/
theorem isPowerOfTwo_iff : isPowerOfTwo a = true ↔ a.toNat.isPowerOfTwo := by
  rw [isPowerOfTwo, Bool.and_eq_true, bne_iff_ne, beq_iff_eq]
  by_cases zero : a = 0
  · subst zero
    have no_power : ¬ (0 : Word).toNat.isPowerOfTwo := by
      intro pow
      exact Nat.lt_irrefl 0 (Nat.pos_of_isPowerOfTwo pow)
    simp only [ne_eq, not_true_eq_false, false_and, no_power]
  · have nonzero : a.toNat ≠ 0 := fun h => zero (BitVec.eq_of_toNat_eq h)
    have one_le : (1 : Word).toNat ≤ a.toNat := Nat.one_le_iff_ne_zero.2 nonzero
    have mask : (a - 1).toNat = a.toNat - 1 := BitVec.toNat_sub_of_le (BitVec.le_def.2 one_le)
    rw [and_iff_right zero, ← BitVec.toNat_inj, BitVec.toNat_and, mask]
    exact Nat.and_sub_one_eq_zero_iff_isPowerOfTwo nonzero

namespace Checked

theorem alignUp_of_isPowerOfTwo (ha : a.toNat.isPowerOfTwo) (v : Word) :
    alignUp v a = .ok (alignUp? v a) :=
  if_pos (isPowerOfTwo_iff.2 ha)

theorem alignDown_of_isPowerOfTwo (ha : a.toNat.isPowerOfTwo) (v : Word) :
    alignDown v a = .ok (ProtectedBoot.alignDown v a) :=
  if_pos (isPowerOfTwo_iff.2 ha)

/-- The test does not ask for a power of two, only for a predecessor. -/
theorem aligned_of_pos (pos : 0 < a.toNat) (v : Word) : aligned v a = .ok (isAligned v a) := by
  have predecessor : checkedSub a 1 = .ok (a - 1) := by
    have one_le : (1 : Word).toNat ≤ a.toNat := pos
    rw [checkedSub_eq_ok_iff, BitVec.toNat_sub_of_le (BitVec.le_def.2 one_le),
      Nat.add_sub_cancel' one_le]
  rw [aligned, predecessor]
  rfl

end Checked

/-! ## The nearest multiples -/

/-- Of two multiples, the greater one is greater by a whole step. -/
theorem add_le_of_dvd {d m n : Nat} (whole_m : d ∣ m) (whole_n : d ∣ n) (lt : m < n) : m + d ≤ n := by
  have distance := Nat.le_of_dvd (Nat.sub_pos_of_lt lt) (Nat.dvd_sub whole_n whole_m)
  omega

theorem isLeast_of_close {d m n : Nat} (whole : d ∣ n) (le : m ≤ n) (close : n < m + d) :
    IsLeast {k | d ∣ k ∧ m ≤ k} n := by
  refine ⟨⟨whole, le⟩, ?_⟩
  rintro k ⟨whole_k, le_k⟩
  apply Nat.le_of_not_lt
  intro below
  have step := add_le_of_dvd whole_k whole below
  omega

theorem isGreatest_of_close {d m n : Nat} (whole : d ∣ n) (le : n ≤ m) (close : m < n + d) :
    IsGreatest {k | d ∣ k ∧ k ≤ m} n := by
  refine ⟨⟨whole, le⟩, ?_⟩
  rintro k ⟨whole_k, k_le⟩
  apply Nat.le_of_not_lt
  intro above
  have step := add_le_of_dvd whole whole_k above
  omega

/-- The end of the address space is a multiple of every alignment. -/
theorem dvd_end (ha : a.toNat.isPowerOfTwo) : a.toNat ∣ 0x100000000 := by
  obtain ⟨k, at_k⟩ := ha
  have small : 2 ^ k < 2 ^ 32 := at_k ▸ a.isLt
  rw [at_k]
  exact Nat.pow_dvd_pow 2 (Nat.le_of_lt ((Nat.pow_lt_pow_iff_right (by decide)).1 small))

/-! ## Rounding up -/

/-- Rounding up finds the least multiple. -/
theorem isLeast_of_alignUp? (ha : a.toNat.isPowerOfTwo) (rounded : alignUp? v a = some r) :
    IsLeast {m | a.toNat ∣ m ∧ v.toNat ≤ m} r.toNat := by
  obtain ⟨-, at_r⟩ := (alignUp?_eq_some_iff ha).1 rounded
  have pos : 0 < a.toNat := Nat.pos_of_isPowerOfTwo ha
  have lt_step := Nat.mod_lt (v.toNat + (a.toNat - 1)) pos
  have whole : a.toNat ∣ r.toNat := by
    rw [at_r]
    exact Nat.dvd_sub_mod _
  exact isLeast_of_close whole (by omega) (by omega)

/-- **Rounding up gives up** where the least multiple is the end of the address space. -/
theorem alignUp?_eq_none_iff_isLeast (ha : a.toNat.isPowerOfTwo) :
    alignUp? v a = none ↔ IsLeast {m | a.toNat ∣ m ∧ v.toNat ≤ m} 0x100000000 := by
  have v_lt := v.isLt
  constructor
  · intro wraps
    rw [alignUp?_eq_none_iff ha] at wraps
    exact isLeast_of_close (dvd_end ha) (by omega) (by omega)
  · intro least
    rcases rounded : alignUp? v a with _ | r
    · rfl
    · have r_lt := r.isLt
      have le := least.2 (isLeast_of_alignUp? ha rounded).1
      omega

/-- Rounding up succeeds if there is any word to round up to. -/
theorem exists_alignUp?_of_dvd (ha : a.toNat.isPowerOfTwo) {m : Nat} (whole : a.toNat ∣ m)
    (le : v.toNat ≤ m) (lt : m < 0x100000000) : ∃ r, alignUp? v a = some r := by
  rcases rounded : alignUp? v a with _ | r
  · have end_le := ((alignUp?_eq_none_iff_isLeast ha).1 rounded).2 ⟨whole, le⟩
    omega
  · exact ⟨r, rfl⟩

/-- **Rounding up yields the least multiple** exactly if it is a word. -/
theorem alignUp?_eq_some_iff_isLeast (ha : a.toNat.isPowerOfTwo) {n : Nat} :
    (alignUp? v a).map BitVec.toNat = some n ↔
      IsLeast {m | a.toNat ∣ m ∧ v.toNat ≤ m} n ∧ n < 0x100000000 := by
  constructor
  · intro rounded
    obtain ⟨r, found, rfl⟩ := Option.map_eq_some_iff.1 rounded
    exact ⟨isLeast_of_alignUp? ha found, r.isLt⟩
  · rintro ⟨least, lt⟩
    obtain ⟨r, rounded⟩ := exists_alignUp?_of_dvd ha least.1.1 least.1.2 lt
    rw [rounded, Option.map_some, (isLeast_of_alignUp? ha rounded).unique least]

/-- A multiple is not below a number if it is not below the number rounded up. -/
theorem le_iff_alignUp?_le (ha : a.toNat.isPowerOfTwo) {m : Nat} (whole : a.toNat ∣ m)
    (lt : m < 0x100000000) : v.toNat ≤ m ↔ ∃ r, alignUp? v a = some r ∧ r.toNat ≤ m := by
  constructor
  · intro le
    obtain ⟨r, rounded⟩ := exists_alignUp?_of_dvd ha whole le lt
    exact ⟨r, rounded, (isLeast_of_alignUp? ha rounded).2 ⟨whole, le⟩⟩
  · rintro ⟨r, rounded, r_le⟩
    exact Nat.le_trans (isLeast_of_alignUp? ha rounded).1.2 r_le

/-! ## Rounding down -/

/-- Rounding down finds the greatest multiple. -/
theorem isGreatest_alignDown (ha : a.toNat.isPowerOfTwo) (v : Word) :
    IsGreatest {m | a.toNat ∣ m ∧ m ≤ v.toNat} (alignDown v a).toNat := by
  have rest_lt := Nat.mod_lt v.toNat (Nat.pos_of_isPowerOfTwo ha)
  have rest_le := Nat.mod_le v.toNat a.toNat
  rw [toNat_alignDown ha]
  exact isGreatest_of_close (Nat.dvd_sub_mod _) (by omega) (by omega)

/-- A multiple is not above a number if it is not above the number rounded down. -/
theorem le_alignDown_iff (ha : a.toNat.isPowerOfTwo) {m : Nat} (whole : a.toNat ∣ m) :
    m ≤ v.toNat ↔ m ≤ (alignDown v a).toNat := by
  have greatest := isGreatest_alignDown ha v
  constructor
  · intro le
    exact greatest.2 ⟨whole, le⟩
  · intro le
    exact Nat.le_trans le greatest.1.2

/-! ## Multiples stay as they are -/

theorem alignDown_eq_self_iff (ha : a.toNat.isPowerOfTwo) :
    alignDown v a = v ↔ a.toNat ∣ v.toNat := by
  have rest_le := Nat.mod_le v.toNat a.toNat
  rw [← BitVec.toNat_inj, toNat_alignDown ha, Nat.dvd_iff_mod_eq_zero]
  omega

theorem alignUp?_eq_self_iff (ha : a.toNat.isPowerOfTwo) :
    alignUp? v a = some v ↔ a.toNat ∣ v.toNat := by
  constructor
  · intro rounded
    exact (isLeast_of_alignUp? ha rounded).1.1
  · intro whole
    obtain ⟨r, rounded⟩ := exists_alignUp?_of_dvd ha whole (Nat.le_refl _) v.isLt
    obtain ⟨⟨-, le⟩, least⟩ := isLeast_of_alignUp? ha rounded
    rw [rounded, BitVec.eq_of_toNat_eq (Nat.le_antisymm (least ⟨whole, Nat.le_refl _⟩) le)]

/-- What lies below an alignment has no bit in common with a multiple of it. -/
theorem toNat_or_of_dvd (ha : a.toNat.isPowerOfTwo) (whole : a.toNat ∣ x.toNat)
    (below : y.toNat < a.toNat) : (x ||| y).toNat = x.toNat + y.toNat := by
  obtain ⟨k, at_k⟩ := ha
  rw [at_k] at whole below
  obtain ⟨q, at_x⟩ := whole
  rw [BitVec.toNat_or, at_x, Nat.two_pow_add_eq_or_of_lt below]

/-! ## All of it -/

/-- **Rounding is exact over the naturals.** Where the alignment is a power of two, the checks let it
pass. Rounding up then yields the least multiple that is not below a number if that is a word, and
nothing if it is the end of the address space; rounding down yields the greatest multiple that is not
above. The test says which numbers are multiples, which are those that rounding leaves alone, in either
direction. And between a number and a multiple, rounding the number towards the multiple does not
change the order. -/
theorem rounding_exact (v : Word) {a : Word} (ha : a.toNat.isPowerOfTwo) :
    Checked.alignUp v a = .ok (alignUp? v a) ∧
    Checked.alignDown v a = .ok (alignDown v a) ∧
    Checked.aligned v a = .ok (isAligned v a) ∧
    (∀ r : Nat, (alignUp? v a).map BitVec.toNat = some r ↔
      IsLeast {m | a.toNat ∣ m ∧ v.toNat ≤ m} r ∧ r < 0x100000000) ∧
    (alignUp? v a = none ↔ IsLeast {m | a.toNat ∣ m ∧ v.toNat ≤ m} 0x100000000) ∧
    IsGreatest {m | a.toNat ∣ m ∧ m ≤ v.toNat} (alignDown v a).toNat ∧
    (isAligned v a = true ↔ a.toNat ∣ v.toNat) ∧
    (isAligned v a = true ↔ alignDown v a = v) ∧
    (isAligned v a = true ↔ alignUp? v a = some v) ∧
    ∀ m : Nat, m < 0x100000000 → a.toNat ∣ m →
      (v.toNat ≤ m ↔ ∃ r, alignUp? v a = some r ∧ r.toNat ≤ m) ∧
      (m ≤ v.toNat ↔ m ≤ (alignDown v a).toNat) := by
  have test : isAligned v a = true ↔ a.toNat ∣ v.toNat := isAligned_iff_dvd ha
  refine ⟨Checked.alignUp_of_isPowerOfTwo ha v, Checked.alignDown_of_isPowerOfTwo ha v,
    Checked.aligned_of_pos (Nat.pos_of_isPowerOfTwo ha) v, ?least, ?no_word,
    isGreatest_alignDown ha v, test, ?down, ?up, ?order⟩
  case least =>
    intro r
    exact alignUp?_eq_some_iff_isLeast ha
  case no_word =>
    exact alignUp?_eq_none_iff_isLeast ha
  case down =>
    rw [test, alignDown_eq_self_iff ha]
  case up =>
    rw [test, alignUp?_eq_self_iff ha]
  case order =>
    intro m lt whole
    exact ⟨le_iff_alignUp?_le ha whole lt, le_alignDown_iff ha whole⟩

/-- In the last page of the address space there is no page boundary to round up to, at its first byte
rounding changes nothing. -/
theorem rounding_exact_in_last_page :
    IsLeast {m | 4096 ∣ m ∧ 0xFFFFF001 ≤ m} 0x100000000 ∧
    IsGreatest {m | 4096 ∣ m ∧ m ≤ 0xFFFFF001} 0xFFFFF000 ∧
    Checked.alignUp 0xFFFFF000 4096 = .ok (some 0xFFFFF000) := by
  have page : (4096 : Word).toNat.isPowerOfTwo := ⟨12, rfl⟩
  obtain ⟨-, -, -, -, no_word, down, -⟩ := rounding_exact 0xFFFFF001 page
  obtain ⟨up, -, -, -, -, -, -, -, stays, -⟩ := rounding_exact 0xFFFFF000 page
  exact ⟨no_word.1 (by decide), down, up.trans (congrArg Except.ok (stays.1 (by decide)))⟩

end ProtectedBoot
