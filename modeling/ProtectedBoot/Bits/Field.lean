import ProtectedBoot.Word

/-!
# Bit fields

A **field** is a run of consecutive bits of a word, described by its offset; its width is part of
its type. Reading a field and writing it are inverse (`get_set`), and a write leaves every bit
outside the field alone (`getLsbD_set`, `get_set_of_disjoint`).

A field of one bit is a **flag**.
-/

namespace ProtectedBoot

/-- A run of `n` bits inside a word of `w` bits. -/
structure Field (w n : Nat) where
  offset : Nat
  fits : Nat.ble (offset + n) w = true := by exact Eq.refl true

/-- A single bit of a word of `w` bits. -/
abbrev Flag (w : Nat) := Field w 1

namespace Field

variable {w n m : Nat}

/-- The word that has exactly the bits of the field set. -/
def mask (f : Field w n) : BitVec w := (BitVec.allOnes n).setWidth w <<< f.offset

/-- The contents of the field. -/
def get (f : Field w n) (v : BitVec w) : BitVec n := v.extractLsb' f.offset n

/-- The word with the field replaced. -/
def set (f : Field w n) (v : BitVec w) (x : BitVec n) : BitVec w :=
  (v &&& ~~~f.mask) ||| (x.setWidth w <<< f.offset)

/-- The word with the field replaced by a number, or nothing if the number is too large. -/
def put? (f : Field w n) (v : BitVec w) (x : Nat) : Option (BitVec w) :=
  if (BitVec.ofNat n x).toNat = x then some (f.set v (BitVec.ofNat n x)) else none

/-- The word with the field replaced by a number; a fault if the number is too large. -/
def put (f : Field w n) (v : BitVec w) (x : Nat) : Except Fault (BitVec w) :=
  match f.put? v x with
  | some u => .ok u
  | none => .error (.fieldTooNarrow n)

/-- Whether a flag is set. -/
def isSet (f : Flag w) (v : BitVec w) : Bool := v.getLsbD f.offset

/-- The word with a flag set or cleared. -/
def assign (f : Flag w) (v : BitVec w) (b : Bool) : BitVec w := f.set v (BitVec.ofBool b)

/-! ## Laws -/

theorem offset_add_le (f : Field w n) : f.offset + n ≤ w := Nat.le_of_ble_eq_true f.fits

/-- Two fields share no bit. -/
def Disjoint (f : Field w n) (g : Field w m) : Prop :=
  f.offset + n ≤ g.offset ∨ g.offset + m ≤ f.offset

instance (f : Field w n) (g : Field w m) : Decidable (f.Disjoint g) :=
  inferInstanceAs (Decidable (_ ∨ _))

/-- **What a write does to each bit.** -/
theorem getLsbD_set (f : Field w n) (v : BitVec w) (x : BitVec n) (i : Nat) :
    (f.set v x).getLsbD i =
      if f.offset ≤ i ∧ i < f.offset + n then x.getLsbD (i - f.offset) else v.getLsbD i := by
  have fits := f.offset_add_le
  by_cases hi : i < w
  · by_cases h1 : f.offset ≤ i
    · by_cases h2 : i < f.offset + n
      · have h3 : i - f.offset < n := by omega
        simp [set, mask, hi, h1, h2, h3, Nat.not_lt.2 h1]
      · have h3 : ¬ i - f.offset < n := by omega
        simp [set, mask, hi, h1, h2, h3, Nat.not_lt.2 h1,
          BitVec.getLsbD_of_ge x (i - f.offset) (by omega)]
    · simp [set, mask, hi, h1, Nat.lt_of_not_le h1]
  · rw [BitVec.getLsbD_of_ge _ _ (by omega), BitVec.getLsbD_of_ge v _ (by omega),
      if_neg (by omega)]

/-- **Reading back** what was written. -/
theorem get_set (f : Field w n) (v : BitVec w) (x : BitVec n) : f.get (f.set v x) = x := by
  apply BitVec.eq_of_getLsbD_eq
  intro i hi
  rw [get, BitVec.getLsbD_extractLsb', getLsbD_set, if_pos ⟨by omega, by omega⟩]
  simp [hi]

/-- **A write is local**: no disjoint field sees it. -/
theorem get_set_of_disjoint {f : Field w n} {g : Field w m} (h : f.Disjoint g)
    (v : BitVec w) (x : BitVec n) : g.get (f.set v x) = g.get v := by
  unfold Disjoint at h
  apply BitVec.eq_of_getLsbD_eq
  intro i hi
  rw [get, get, BitVec.getLsbD_extractLsb', BitVec.getLsbD_extractLsb', getLsbD_set,
    if_neg (by omega)]

/-- A number that fits is written without a fault. -/
theorem put_of_lt (f : Field w n) (v : BitVec w) {x : Nat} (fits : x < Nat.pow 2 n) :
    f.put v x = .ok (f.set v (BitVec.ofNat n x)) := by
  have kept : (BitVec.ofNat n x).toNat = x := by
    rw [BitVec.toNat_ofNat]
    exact Nat.mod_eq_of_lt fits
  rw [put, put?, if_pos kept]

theorem isSet_assign (f : Flag w) (v : BitVec w) (b : Bool) : f.isSet (f.assign v b) = b := by
  rw [isSet, assign, getLsbD_set, if_pos ⟨Nat.le_refl _, by omega⟩, Nat.sub_self]
  cases b <;> rfl

/-- Setting a flag adds its bit to the word. -/
theorem assign_true (f : Flag w) (v : BitVec w) : f.assign v true = v ||| f.mask := by
  show (v &&& ~~~f.mask) ||| f.mask = v ||| f.mask
  apply BitVec.eq_of_getLsbD_eq
  intro i hi
  simp only [BitVec.getLsbD_or, BitVec.getLsbD_and, BitVec.getLsbD_not, hi, decide_true, Bool.true_and]
  cases v.getLsbD i <;> cases f.mask.getLsbD i <;> rfl

/-- Clearing a flag takes its bit from the word. -/
theorem assign_false (f : Flag w) (v : BitVec w) : f.assign v false = v &&& ~~~f.mask := by
  have nothing : (BitVec.ofBool false).setWidth w <<< f.offset = 0#w := by simp
  rw [assign, set, nothing, BitVec.or_zero]

/-- To write what a flag already is changes nothing. -/
theorem assign_of_isSet {f : Flag w} {v : BitVec w} {b : Bool} (same : f.isSet v = b) :
    f.assign v b = v := by
  apply BitVec.eq_of_getLsbD_eq
  intro i hi
  rw [assign, getLsbD_set]
  split
  · rename_i here
    obtain rfl : i = f.offset := by omega
    rw [Nat.sub_self]
    exact (by cases b <;> rfl : (BitVec.ofBool b).getLsbD 0 = b).trans same.symm
  · rfl

theorem isSet_set_of_disjoint {f : Field w n} {g : Flag w} (h : f.Disjoint g)
    (v : BitVec w) (x : BitVec n) : g.isSet (f.set v x) = g.isSet v := by
  unfold Disjoint at h
  rw [isSet, isSet, getLsbD_set, if_neg (by omega)]

theorem isSet_assign_of_disjoint {f g : Flag w} (h : f.Disjoint g) (v : BitVec w) (b : Bool) :
    g.isSet (f.assign v b) = g.isSet v :=
  isSet_set_of_disjoint h v _

theorem get_assign_of_disjoint {f : Flag w} {g : Field w m} (h : f.Disjoint g) (v : BitVec w)
    (b : Bool) : g.get (f.assign v b) = g.get v :=
  get_set_of_disjoint h v _

end Field

end ProtectedBoot
