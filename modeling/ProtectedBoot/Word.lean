import ProtectedBoot.Fault

/-!
# Words

The machine's words are bit vectors. Arithmetic on them comes in three kinds: wrapping (the plain
operators), **checked** (a fault when the exact result does not fit), and **saturating** (the
largest word stands for everything beyond it).
-/

namespace ProtectedBoot

/-- A byte. -/
abbrev Byte := BitVec 8

/-- A segment selector or table limit. -/
abbrev HalfWord := BitVec 16

/-- The natural word of the machine. -/
abbrev Word := BitVec 32

/-- A descriptor, or an address in a boot loader's memory map. -/
abbrev DoubleWord := BitVec 64

variable {w : Nat}

/-! ## Checked and saturating arithmetic -/

/-- The sum, or nothing if it does not fit. -/
def add? (x y : BitVec w) : Option (BitVec w) :=
  if x.uaddOverflow y then none else some (x + y)

/-- The difference, or nothing if it is negative. -/
def sub? (x y : BitVec w) : Option (BitVec w) :=
  if x.usubOverflow y then none else some (x - y)

/-- The product, or nothing if it does not fit. -/
def mul? (x y : BitVec w) : Option (BitVec w) :=
  if x.umulOverflow y then none else some (x * y)

/-- The sum, or a fault if it does not fit. -/
def checkedAdd (x y : BitVec w) : Except Fault (BitVec w) :=
  match add? x y with
  | some z => .ok z
  | none => .error .addOverflow

/-- The difference, or a fault if it is negative. -/
def checkedSub (x y : BitVec w) : Except Fault (BitVec w) :=
  match sub? x y with
  | some z => .ok z
  | none => .error .subOverflow

/-- The product, or a fault if it does not fit. -/
def checkedMul (x y : BitVec w) : Except Fault (BitVec w) :=
  match mul? x y with
  | some z => .ok z
  | none => .error .mulOverflow

/-- The sum, cut off at the largest word. -/
def saturatingAdd (x y : BitVec w) : BitVec w := (add? x y).getD (BitVec.allOnes w)

/-- The difference, cut off at zero. -/
def saturatingSub (x y : BitVec w) : BitVec w := (sub? x y).getD 0

theorem add?_eq_some_iff {x y z : BitVec w} :
    add? x y = some z ↔ x.toNat + y.toNat = z.toNat := by
  unfold add? BitVec.uaddOverflow
  have hz := z.isLt
  split
  · rename_i h
    have h := of_decide_eq_true h
    constructor
    · intro k
      cases k
    · intro k
      omega
  · rename_i h
    have h := Nat.not_le.1 (of_decide_eq_false (Bool.eq_false_iff.2 h))
    rw [Option.some.injEq, ← BitVec.toNat_inj, BitVec.toNat_add, Nat.mod_eq_of_lt h]

theorem add?_eq_none_iff {x y : Word} : add? x y = none ↔ 0x100000000 ≤ x.toNat + y.toNat := by
  simp [add?, BitVec.uaddOverflow]

theorem sub?_eq_some_iff {x y z : BitVec w} :
    sub? x y = some z ↔ x.toNat = y.toNat + z.toNat := by
  unfold sub? BitVec.usubOverflow
  split
  · rename_i h
    have h := of_decide_eq_true h
    constructor
    · intro k
      cases k
    · intro k
      omega
  · rename_i h
    have h := Nat.not_lt.1 (of_decide_eq_false (Bool.eq_false_iff.2 h))
    rw [Option.some.injEq, ← BitVec.toNat_inj, BitVec.toNat_sub_of_le (BitVec.le_def.2 h)]
    omega

theorem mul?_eq_some_iff {x y z : BitVec w} :
    mul? x y = some z ↔ x.toNat * y.toNat = z.toNat := by
  unfold mul? BitVec.umulOverflow
  have hz := z.isLt
  split
  · rename_i h
    have h := of_decide_eq_true h
    constructor
    · intro k
      cases k
    · intro k
      omega
  · rename_i h
    have h := Nat.not_le.1 (of_decide_eq_false (Bool.eq_false_iff.2 h))
    rw [Option.some.injEq, ← BitVec.toNat_inj, BitVec.toNat_mul, Nat.mod_eq_of_lt h]

theorem checkedAdd_eq_ok_iff {x y z : BitVec w} :
    checkedAdd x y = .ok z ↔ x.toNat + y.toNat = z.toNat := by
  rw [← add?_eq_some_iff, checkedAdd]
  cases add? x y <;> simp

/-- A sum that fits is no fault. -/
theorem exists_checkedAdd {x y : BitVec w} (lt : x.toNat + y.toNat < Nat.pow 2 w) :
    ∃ z, checkedAdd x y = .ok z ∧ x.toNat + y.toNat = z.toNat := by
  have sum : x.toNat + y.toNat = (x + y).toNat := by
    rw [BitVec.toNat_add]
    exact (Nat.mod_eq_of_lt lt).symm
  exact ⟨x + y, checkedAdd_eq_ok_iff.2 sum, sum⟩

theorem checkedAdd_of_le {x y : BitVec w} (le : Nat.pow 2 w ≤ x.toNat + y.toNat) :
    checkedAdd x y = .error .addOverflow := by
  have overflow : x.uaddOverflow y = true := decide_eq_true le
  rw [checkedAdd, add?, if_pos overflow]

theorem checkedSub_eq_ok_iff {x y z : BitVec w} :
    checkedSub x y = .ok z ↔ x.toNat = y.toNat + z.toNat := by
  rw [← sub?_eq_some_iff, checkedSub]
  cases sub? x y <;> simp

theorem checkedSub_of_lt {x y : BitVec w} (lt : x.toNat < y.toNat) :
    checkedSub x y = .error .subOverflow := by
  rw [checkedSub, sub?, BitVec.usubOverflow, if_pos (decide_eq_true lt)]

/-- A difference that is not negative is no fault. -/
theorem exists_checkedSub {x y : BitVec w} (le : y.toNat ≤ x.toNat) :
    ∃ z, checkedSub x y = .ok z ∧ x.toNat = y.toNat + z.toNat := by
  have distance : x.toNat = y.toNat + (x - y).toNat := by
    rw [BitVec.toNat_sub_of_le (BitVec.le_def.2 le), Nat.add_sub_cancel' le]
  exact ⟨x - y, checkedSub_eq_ok_iff.2 distance, distance⟩

theorem checkedMul_eq_ok_iff {x y z : BitVec w} :
    checkedMul x y = .ok z ↔ x.toNat * y.toNat = z.toNat := by
  rw [← mul?_eq_some_iff, checkedMul]
  cases mul? x y <;> simp

/-- A saturating sum is the exact one, cut off at the largest word. -/
theorem toNat_saturatingAdd (x y : BitVec w) :
    (saturatingAdd x y).toNat = min (x.toNat + y.toNat) (BitVec.allOnes w).toNat := by
  rw [BitVec.toNat_allOnes]
  unfold saturatingAdd
  rcases sum : add? x y with _ | z
  · have wraps : 2 ^ w ≤ x.toNat + y.toNat := by
      apply Nat.le_of_not_lt
      intro fits
      have sum_at : (BitVec.ofNat w (x.toNat + y.toNat)).toNat = x.toNat + y.toNat := by
        rw [BitVec.toNat_ofNat, Nat.mod_eq_of_lt fits]
      rw [add?_eq_some_iff.2 sum_at.symm] at sum
      cases sum
    show (BitVec.allOnes w).toNat = _
    rw [BitVec.toNat_allOnes]
    omega
  · have sum_at := add?_eq_some_iff.1 sum
    have small := z.isLt
    show z.toNat = _
    omega

/-- A saturating difference is the exact one, cut off at zero. -/
theorem toNat_saturatingSub (x y : BitVec w) :
    (saturatingSub x y).toNat = x.toNat - y.toNat := by
  unfold saturatingSub
  rcases difference : sub? x y with _ | z
  · have negative : x.toNat < y.toNat := by
      apply Nat.lt_of_not_le
      intro le
      have difference_at : x.toNat = y.toNat + (x - y).toNat := by
        rw [BitVec.toNat_sub_of_le (BitVec.le_def.2 le), Nat.add_sub_cancel' le]
      rw [sub?_eq_some_iff.2 difference_at] at difference
      cases difference
    show (0 : BitVec w).toNat = _
    rw [BitVec.ofNat_eq_ofNat, BitVec.toNat_zero]
    omega
  · have difference_at := sub?_eq_some_iff.1 difference
    show z.toNat = _
    omega

/-! ## Little-endian bytes -/

/-- The bytes of a word in memory order: the least significant byte comes first. -/
def littleEndian (count : Nat) (x : BitVec w) : List Byte :=
  (List.range count).map fun i => x.extractLsb' (8 * i) 8

theorem littleEndian_length (count : Nat) (x : BitVec w) :
    (littleEndian count x).length = count := by
  simp [littleEndian]

/-- The half word stored as `b₀`, `b₁`. -/
def ofBytes16 (b₀ b₁ : Byte) : HalfWord := b₁ ++ b₀

/-- The word stored as `b₀` … `b₃`. -/
def ofBytes32 (b₀ b₁ b₂ b₃ : Byte) : Word := ofBytes16 b₂ b₃ ++ ofBytes16 b₀ b₁

/-- The four bytes of a word make it up again. -/
theorem ofBytes32_extract (x : Word) :
    ofBytes32 (x.extractLsb' 0 8) (x.extractLsb' 8 8) (x.extractLsb' 16 8) (x.extractLsb' 24 8) =
      x := by
  have half (k : Nat) :
      ofBytes16 (x.extractLsb' k 8) (x.extractLsb' (k + 8) 8) = x.extractLsb' k 16 :=
    (BitVec.extractLsb'_append_extractLsb'_eq_extractLsb' (by rfl)).trans rfl
  rw [ofBytes32, half 0, half 16]
  exact (BitVec.extractLsb'_append_extractLsb'_eq_extractLsb' (by rfl)).trans
    (BitVec.extractLsb'_eq_self)

end ProtectedBoot
