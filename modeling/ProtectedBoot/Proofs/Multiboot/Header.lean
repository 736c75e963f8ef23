import ProtectedBoot.Multiboot.Header
import ProtectedBoot.Proofs.Bytes

/-!
# The boot loader's search for its header

A boot loader cuts the image off behind the search window and tries every fourth offset of what is
left. What it finds can be said without the cut and without the order in which it searches: the least
multiple of four at which a valid header lies, if that header ends in the window
(`find_eq_some_iff`); and it finds nothing only where there is no such offset (`find_eq_none_iff`).

A header that was emitted is valid wherever it is written (`validAt_of_holds`), so an image that holds
one in the window has a header that is found (`exists_find_of_validAt`), and it is that one unless
there is an earlier one.
-/

namespace ProtectedBoot.Multiboot.Header

open Bytes (Holds)

variable {b image : Bytes} {k limit offset : Nat}

/-! ## One offset -/

theorem read?_any_isValid_iff : (read? b offset).any isValid = true ↔ ValidAt b offset := by
  rw [Option.any_eq_true]
  constructor
  · rintro ⟨h, found, valid⟩
    simp only [read?, Option.bind_eq_bind, Option.bind_eq_some_iff] at found
    obtain ⟨magic, at_magic, flags, at_flags, checksum, at_checksum, made⟩ := found
    cases made
    simp only [isValid, decide_eq_true_eq] at valid
    obtain ⟨rfl, sum⟩ := valid
    exact ⟨flags, checksum, at_magic, at_flags, at_checksum, sum⟩
  · rintro ⟨flags, checksum, at_magic, at_flags, at_checksum, sum⟩
    refine ⟨⟨headerMagic, flags, checksum⟩, ?_, ?_⟩
    · simp only [read?, at_magic, at_flags, at_checksum]
      rfl
    · simpa only [isValid, decide_eq_true_eq, true_and] using sum

/-- A valid header lies in the string as a whole. -/
theorem ValidAt.inside (valid : ValidAt b offset) : offset + 12 ≤ b.size := by
  obtain ⟨flags, checksum, -, -, at_checksum, -⟩ := valid
  exact b.word?_isSome_iff.1 (Option.isSome_of_eq_some at_checksum)

/-- What a cut leaves of the valid headers are those that end before it. -/
theorem validAt_take_iff : ValidAt (b.take limit) offset ↔ ValidAt b offset ∧ offset + 12 ≤ limit := by
  unfold ValidAt
  simp only [Bytes.word?_take_eq_some_iff]
  constructor
  · rintro ⟨flags, checksum, ⟨at_magic, -⟩, ⟨at_flags, -⟩, ⟨at_checksum, early⟩, sum⟩
    exact ⟨⟨flags, checksum, at_magic, at_flags, at_checksum, sum⟩, early⟩
  · rintro ⟨⟨flags, checksum, at_magic, at_flags, at_checksum, sum⟩, early⟩
    exact ⟨flags, checksum, ⟨at_magic, by omega⟩, ⟨at_flags, by omega⟩, ⟨at_checksum, early⟩, sum⟩

/-- **What is emitted is valid wherever it is written.** -/
theorem validAt_of_holds {flags : Word} (written : b.Holds offset (emit flags).toBytes) :
    ValidAt b offset := by
  simp only [toBytes, Bytes.holds_append_iff, List.length_append, littleEndian_length] at written
  obtain ⟨⟨magic, flags_held⟩, checksum⟩ := written
  have valid := isValid_emit flags
  simp only [isValid, decide_eq_true_eq] at valid
  exact ⟨_, _, magic.word?, flags_held.word?, checksum.word?, valid.2⟩

/-! ## The search -/

/-- Some step of the search looks at an offset of the window, and only at those. -/
theorem find_eq_map (image : Bytes) :
    find image = ((List.range (((image.take 8192).size + 3) / 4)).find? fun i =>
      (read? (image.take 8192) (4 * i)).any isValid).map (4 * ·) :=
  List.find?_map

/-- **The search yields the least offset of a valid header**, among the multiples of four, if that
header ends in the window. -/
theorem find_eq_some_iff :
    find image = some k ↔
      4 ∣ k ∧ k + 12 ≤ 8192 ∧ ValidAt image k ∧ ∀ j, j < k → 4 ∣ j → ¬ ValidAt image j := by
  rw [find_eq_map, Option.map_eq_some_iff]
  simp only [List.find?_range_eq_some, read?_any_isValid_iff, Bool.not_eq_true',
    ← Bool.not_eq_true, List.mem_range]
  constructor
  · rintro ⟨i, ⟨valid, -, first⟩, rfl⟩
    obtain ⟨valid, early⟩ := validAt_take_iff.1 valid
    refine ⟨Nat.dvd_mul_right 4 i, early, valid, ?_⟩
    rintro j before ⟨m, rfl⟩ earlier
    -- An earlier header ends in the window, too, so the search would have stopped there.
    apply first m (by omega)
    exact validAt_take_iff.2 ⟨earlier, by omega⟩
  · rintro ⟨⟨i, rfl⟩, early, valid, first⟩
    have cut := validAt_take_iff.2 ⟨valid, early⟩
    have inside := cut.inside
    refine ⟨i, ⟨cut, by omega, ?_⟩, rfl⟩
    intro m before earlier
    exact first (4 * m) (by omega) (Nat.dvd_mul_right 4 m) (validAt_take_iff.1 earlier).1

/-- **The search fails only where there is nothing to find.** -/
theorem find_eq_none_iff :
    find image = none ↔ ∀ k, 4 ∣ k → k + 12 ≤ 8192 → ¬ ValidAt image k := by
  rw [find_eq_map, Option.map_eq_none_iff]
  simp only [List.find?_range_eq_none, read?_any_isValid_iff, Bool.not_eq_true',
    ← Bool.not_eq_true]
  constructor
  · rintro none_valid k ⟨i, rfl⟩ early valid
    have cut := validAt_take_iff.2 ⟨valid, early⟩
    have inside := cut.inside
    exact none_valid i (by omega) cut
  · intro none_valid i _ cut
    obtain ⟨valid, early⟩ := validAt_take_iff.1 cut
    exact none_valid (4 * i) (Nat.dvd_mul_right 4 i) early valid

/-- A valid header in the window is found, or an earlier one is. -/
theorem exists_find_of_validAt (whole : 4 ∣ k) (early : k + 12 ≤ 8192) (valid : ValidAt image k) :
    ∃ j, find image = some j ∧ j ≤ k := by
  rcases found : find image with _ | j
  · exact absurd valid (find_eq_none_iff.1 found k whole early)
  · obtain ⟨-, -, -, first⟩ := find_eq_some_iff.1 found
    refine ⟨j, rfl, Nat.le_of_not_lt ?_⟩
    intro before
    exact first k before whole valid

end ProtectedBoot.Multiboot.Header
