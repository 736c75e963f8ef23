import Mathlib.Data.Nat.Digits.Defs
import ProtectedBoot.Bytes

/-!
# What is written byte by byte is read back

Numbers are written with their least significant byte first. Over the naturals, the bytes are the
digits of the number in base 256 (`ofDigits_littleEndian`).

`Bytes.Holds` says that a byte string holds given bytes from an offset on. What is held is held piece
by piece (`holds_append_iff`, `Holds.piece`), a string that is cut off behind it still holds it
(`Holds.take`), and a number that is held is what a read at the offset yields (`Holds.word?`,
`Holds.doubleWord?`). So whoever writes a record and whoever reads it need to agree on offsets only.
-/

namespace ProtectedBoot

variable {w : Nat}

/-! ## Little-endian numbers -/

theorem littleEndian_succ (count : Nat) (x : BitVec w) :
    littleEndian (count + 1) x = x.extractLsb' 0 8 :: littleEndian count (x >>> 8) := by
  unfold littleEndian
  rw [List.range_succ_eq_map, List.map_cons, List.map_map]
  congr 1
  apply List.map_congr_left
  intro i _
  show x.extractLsb' (8 * (i + 1)) 8 = (x >>> 8).extractLsb' (8 * i) 8
  apply BitVec.eq_of_getLsbD_eq
  intro k hk
  have position : 8 * (i + 1) + k = 8 + (8 * i + k) := by omega
  simp only [BitVec.getLsbD_extractLsb', BitVec.getLsbD_ushiftRight, position]

theorem ofDigits_littleEndian (count : Nat) (x : BitVec w) :
    Nat.ofDigits 256 ((littleEndian count x).map BitVec.toNat) = x.toNat % 256 ^ count := by
  -- One byte is split off at the low end, and the rest of the number moves down.
  induction count generalizing x with
  | zero => simp [littleEndian, Nat.mod_one]
  | succ count ih =>
    have low : (x.extractLsb' 0 8).toNat = x.toNat % 256 := by
      simp [BitVec.extractLsb'_toNat]
    have high : (x >>> 8).toNat = x.toNat / 256 := by
      simp [BitVec.toNat_ushiftRight, Nat.shiftRight_eq_div_pow]
    rw [littleEndian_succ, List.map_cons, Nat.ofDigits_cons, ih, low, high, Nat.pow_succ',
      Nat.mod_mul]

/-- **The bytes of a word are its digits.** -/
theorem ofDigits_littleEndian_of_width (x : BitVec w) {count : Nat} (wide : w = 8 * count) :
    Nat.ofDigits 256 ((littleEndian count x).map BitVec.toNat) = x.toNat := by
  rw [ofDigits_littleEndian]
  apply Nat.mod_eq_of_lt
  subst wide
  have bound := x.isLt
  rw [Nat.pow_mul] at bound
  exact bound

/-- Four bytes in a row make up the word that they were taken from. -/
theorem ofBytes32_extractLsb' (x : BitVec w) (k : Nat) :
    ofBytes32 (x.extractLsb' k 8) (x.extractLsb' (k + 8) 8) (x.extractLsb' (k + 16) 8)
      (x.extractLsb' (k + 24) 8) = x.extractLsb' k 32 := by
  have half (j : Nat) :
      ofBytes16 (x.extractLsb' j 8) (x.extractLsb' (j + 8) 8) = x.extractLsb' j 16 :=
    (BitVec.extractLsb'_append_extractLsb'_eq_extractLsb' (by rfl)).trans rfl
  rw [ofBytes32, half k, half (k + 16)]
  exact (BitVec.extractLsb'_append_extractLsb'_eq_extractLsb' (by rfl)).trans rfl

namespace Bytes

variable {b : Bytes} {offset : Nat} {l m : List Byte}

theorem size_ofList (l : List Byte) : (ofList l).size = l.length := List.size_toArray

/-- The first bytes of a list are the first bytes of the string that it is. -/
theorem ofList_take (l : List Byte) (k : Nat) : ofList (l.take k) = (ofList l).take k := by
  refine ext ?_ ?_
  · show (ofList (l.take k)).size = min (ofList l).size k
    rw [size_ofList, size_ofList, List.length_take, Nat.min_comm]
  · intro i hi
    simp [ofList, ofArray, take]

/-- A word of a string that is cut off is a word of the string that lies before the cut. -/
theorem word?_take_eq_some_iff {k : Nat} {x : Word} :
    (b.take k).word? offset = some x ↔ b.word? offset = some x ∧ offset + 4 ≤ k := by
  have size : (b.take k).size = min b.size k := rfl
  unfold word? run?
  by_cases inside : offset + 4 ≤ min b.size k
  · obtain ⟨fits, early⟩ := Nat.le_min.1 inside
    rw [dif_pos (size ▸ inside), dif_pos fits]
    simp only [take, early, and_true]
  · rw [dif_neg (size ▸ inside)]
    constructor
    · intro found
      cases found
    · rintro ⟨found, early⟩
      split at found
      · rename_i fits
        exact absurd (Nat.le_min.2 ⟨fits, early⟩) inside
      · cases found

/-! ## Bytes that are held -/

/-- The string holds the bytes of `l` in a row, the first of them at an offset. -/
structure Holds (b : Bytes) (offset : Nat) (l : List Byte) : Prop where
  inside : offset + l.length ≤ b.size
  bytes : ∀ (i : Nat) (hi : i < l.length), b.byte ⟨offset + i, by omega⟩ = l[i]

theorem holds_ofList (l : List Byte) : (ofList l).Holds 0 l where
  inside := by rw [size_ofList, Nat.zero_add]
  bytes i hi := by
    simp [ofList, ofArray]

/-- **What is held is held piece by piece.** -/
theorem holds_append_iff :
    b.Holds offset (l ++ m) ↔ b.Holds offset l ∧ b.Holds (offset + l.length) m := by
  constructor
  · rintro ⟨inside, bytes⟩
    rw [List.length_append] at inside
    refine ⟨⟨by omega, ?first⟩, ⟨by omega, ?second⟩⟩
    case first =>
      intro i hi
      rw [bytes i (by rw [List.length_append]; omega), List.getElem_append_left hi]
    case second =>
      intro i hi
      have byte := bytes (l.length + i) (by rw [List.length_append]; omega)
      rw [List.getElem_append_right (by omega)] at byte
      simp only [Nat.add_sub_cancel_left, ← Nat.add_assoc] at byte
      exact byte
  · rintro ⟨first, second⟩
    have inside := second.inside
    refine ⟨by rw [List.length_append]; omega, ?_⟩
    intro i hi
    by_cases early : i < l.length
    · rw [first.bytes i early, List.getElem_append_left early]
    · rw [List.length_append] at hi
      rw [List.getElem_append_right (by omega), ← second.bytes (i - l.length) (by omega)]
      congr 2
      omega

namespace Holds

/-- A string that is cut off behind what it holds still holds it. -/
theorem take (h : b.Holds offset l) {k : Nat} (fits : offset + l.length ≤ k) :
    (b.take k).Holds offset l where
  inside := Nat.le_min.2 ⟨h.inside, fits⟩
  bytes := h.bytes

/-- What a list of bytes holds stands in the list. -/
theorem getElem?_eq (h : (ofList m).Holds offset l) {i : Nat} (hi : i < l.length) :
    m[offset + i]? = some l[i] := by
  have inside := h.inside
  rw [size_ofList] at inside
  rw [← h.bytes i hi, List.getElem?_eq_getElem (by omega)]
  simp [ofList, ofArray]

/-- Pieces of one length are held one behind the other: piece `i` lies behind `i` of them. -/
theorem piece {α : Type} {f : α → List Byte} {size : Nat} (uniform : ∀ a, (f a).length = size)
    {pieces : List α} (h : b.Holds offset (pieces.flatMap f)) {i : Nat} {a : α}
    (at_i : pieces[i]? = some a) : b.Holds (offset + size * i) (f a) := by
  induction pieces generalizing offset i with
  | nil => simp at at_i
  | cons p rest ih =>
    rw [List.flatMap_cons, holds_append_iff, uniform] at h
    cases i with
    | zero =>
      rw [List.getElem?_cons_zero, Option.some.injEq] at at_i
      rw [Nat.mul_zero, ← at_i]
      exact h.1
    | succ i =>
      rw [List.getElem?_cons_succ] at at_i
      have later := ih h.2 at_i
      have place : offset + size + size * i = offset + size * (i + 1) := by
        rw [Nat.mul_succ]
        omega
      rwa [place] at later

/-! ## Numbers that are held -/

/-- The bytes of a number, one by one. -/
theorem byte_eq {count : Nat} {x : BitVec w} (h : b.Holds offset (littleEndian count x)) (i : Nat)
    (hi : i < count) :
    b.byte ⟨offset + i, by have := h.inside; rw [littleEndian_length] at this; omega⟩ =
      x.extractLsb' (8 * i) 8 := by
  rw [h.bytes i (by rwa [littleEndian_length])]
  simp [littleEndian]

/-- **A word that is held is read.** -/
theorem word? {x : Word} (h : b.Holds offset (littleEndian 4 x)) : b.word? offset = some x := by
  have inside : offset + 4 ≤ b.size := h.inside
  rw [Bytes.word?, run?, dif_pos inside, Option.map_some]
  show some (ofBytes32 (b.byte ⟨offset + 0, _⟩) (b.byte ⟨offset + 1, _⟩) (b.byte ⟨offset + 2, _⟩)
    (b.byte ⟨offset + 3, _⟩)) = some x
  rw [h.byte_eq 0 (by decide), h.byte_eq 1 (by decide), h.byte_eq 2 (by decide),
    h.byte_eq 3 (by decide)]
  exact congrArg some (ofBytes32_extract x)

/-- **A double word that is held is read.** -/
theorem doubleWord? {x : DoubleWord} (h : b.Holds offset (littleEndian 8 x)) :
    b.doubleWord? offset = some x := by
  have inside : offset + 8 ≤ b.size := h.inside
  rw [Bytes.doubleWord?, run?, dif_pos inside, Option.map_some]
  show some (ofBytes32 (b.byte ⟨offset + 4, _⟩) (b.byte ⟨offset + 5, _⟩) (b.byte ⟨offset + 6, _⟩)
      (b.byte ⟨offset + 7, _⟩) ++
    ofBytes32 (b.byte ⟨offset + 0, _⟩) (b.byte ⟨offset + 1, _⟩) (b.byte ⟨offset + 2, _⟩)
      (b.byte ⟨offset + 3, _⟩)) = some x
  rw [h.byte_eq 0 (by decide), h.byte_eq 1 (by decide), h.byte_eq 2 (by decide),
    h.byte_eq 3 (by decide), h.byte_eq 4 (by decide), h.byte_eq 5 (by decide),
    h.byte_eq 6 (by decide), h.byte_eq 7 (by decide)]
  have low := ofBytes32_extractLsb' x 0
  have high := ofBytes32_extractLsb' x 32
  have whole : x.extractLsb' 32 32 ++ x.extractLsb' 0 32 = x :=
    (BitVec.extractLsb'_append_extractLsb'_eq_extractLsb' (by rfl)).trans BitVec.extractLsb'_eq_self
  exact congrArg some ((congrArg₂ (· ++ ·) high low).trans whole)

end Holds

end Bytes

end ProtectedBoot
