import ProtectedBoot.Proofs.Bytes
import ProtectedBoot.Proofs.Segment.Loadable
import ProtectedBoot.Segment.Image

/-!
# The processor reads the table that was written

The pointer tells of as many bytes as the table has (`tells_of_pointerAt`), those bytes are what
`serialize` writes (`overwrites`), and the selectors lead to descriptors among them (`finds`): an
index is an offset divided by eight (`Selector.toNat_and_not_seven`), and a table provides selectors
of its own descriptors only (`index_lt_of_provides`). `serialize_read_back` puts the three together.
-/

namespace ProtectedBoot

/-! ## Offsets and pointers -/

/-- **A selector without its lowest three bits is an offset**: that of the descriptor at its index. -/
theorem Selector.toNat_and_not_seven {c : SegmentClass} (s : Selector c) :
    (s.bits &&& ~~~7#16).toNat = 8 * s.index := by
  have mask : ∀ i < 16, (~~~7#16).getLsbD i = decide (3 ≤ i) := by decide
  have cleared : s.bits &&& ~~~7#16 = (s.bits >>> 3) <<< 3 := by
    apply BitVec.eq_of_getLsbD_eq
    intro i hi
    rw [BitVec.getLsbD_and, mask i hi, BitVec.getLsbD_shiftLeft, BitVec.getLsbD_ushiftRight]
    by_cases high : 3 ≤ i
    · simp [hi, high, Nat.not_lt.2 high, Nat.add_sub_cancel' high]
    · simp [high, Nat.lt_of_not_le high]
  have bound := s.bits.isLt
  rw [cleared, index, Field.get, SelectorBits.index, BitVec.extractLsb'_toNat,
    BitVec.toNat_shiftLeft, BitVec.toNat_ushiftRight, Nat.shiftLeft_eq, Nat.shiftRight_eq_div_pow]
  omega

/-- The six bytes of a pointer are the digits of its limit and of its base. -/
theorem TablePointer.tells (p : TablePointer) : p.Tells p.base (p.limit.toNat + 1) where
  length := by rw [toBytes, List.length_append, littleEndian_length, littleEndian_length]
  limit := by
    rw [toBytes, List.take_left' (littleEndian_length 2 p.limit), ofDigits_littleEndian_of_width _ rfl]
  base := by
    rw [toBytes, List.drop_left' (littleEndian_length 2 p.limit), ofDigits_littleEndian_of_width _ rfl]

namespace GlobalTable

variable {shape : TableShape} {t : GlobalTable shape} {base : Word}

theorem entries_pos (shape : TableShape) : 0 < shape.entries := by
  cases shape <;> decide

/-- **Where a table may lie**: at a multiple of eight, with all of it below 4 GiB. -/
theorem exists_pointerAt_iff :
    (∃ p, t.pointerAt base = .ok p) ↔
      8 ∣ base.toNat ∧ base.toNat + 8 * shape.entries ≤ 0x100000000 := by
  have entries := entries_pos shape
  simp only [pointerAt_eq_ok_iff, toNat_limit]
  constructor
  · rintro ⟨p, aligned, reach, -⟩
    exact ⟨aligned, by omega⟩
  · rintro ⟨aligned, reach⟩
    exact ⟨_, aligned, by omega, rfl⟩

theorem tells_of_pointerAt {p : TablePointer} (h : t.pointerAt base = .ok p) :
    p.Tells base (8 * shape.entries) := by
  obtain ⟨-, -, rfl⟩ := pointerAt_eq_ok_iff.1 h
  have tells := TablePointer.tells ⟨t.limit, base⟩
  have entries := entries_pos shape
  have all : t.limit.toNat + 1 = 8 * shape.entries := by
    rw [toNat_limit]
    omega
  rw [all] at tells
  exact tells

/-! ## The bytes of the table -/

theorem length_toBytes (t : GlobalTable shape) : t.toBytes.length = 8 * shape.entries := by
  rw [toBytes, List.length_flatMap]
  have each : t.descriptors.toList.map (fun d => d.toBytes.length) =
      List.replicate shape.entries 8 := by
    rw [List.eq_replicate_iff]
    refine ⟨by simp, ?_⟩
    intro n mem
    obtain ⟨d, -, rfl⟩ := List.mem_map.1 mem
    exact littleEndian_length 8 d.bits
  rw [each, List.sum_replicate_nat, Nat.mul_comm]

/-- What starts with a table holds each of its descriptors, number `i` behind `i` others. -/
theorem holds_descriptor (t : GlobalTable shape) (rest : List Byte) {i : Nat} {d : Descriptor}
    (at_i : t.descriptors[i]? = some d) :
    (Bytes.ofList (t.toBytes ++ rest)).Holds (8 * i) (littleEndian 8 d.bits) := by
  have table := (Bytes.holds_append_iff.1 (Bytes.holds_ofList (t.toBytes ++ rest))).1
  have uniform (d : Descriptor) : d.toBytes.length = 8 := littleEndian_length 8 d.bits
  have listed : t.descriptors.toList[i]? = some d := by simpa using at_i
  have piece := table.piece uniform listed
  rwa [Nat.zero_add] at piece

theorem overwrites (t : GlobalTable shape) {buffer : List Byte}
    (fits : 8 * shape.entries ≤ buffer.length) :
    t.Overwrites buffer (t.toBytes ++ buffer.drop (8 * shape.entries)) where
  length := by
    rw [List.length_append, length_toBytes, List.length_drop]
    omega
  descriptors i j := by
    have at_i : t.descriptors[i.val]? = some t.descriptors[i] := by simp
    have held := t.holds_descriptor (buffer.drop (8 * shape.entries)) at_i
    rw [held.getElem?_eq (by rw [littleEndian_length]; exact j.isLt)]
    simp [littleEndian]
  rest := List.drop_left' (length_toBytes t)

/-! ## The selectors -/

variable {c : SegmentClass} {s : Selector c}

/-- A table provides selectors of its own descriptors only. -/
theorem index_lt_of_provides (provided : t.selectors.Provides s) : s.index < shape.entries := by
  cases provided with
  | kernelCode =>
    show ProtectedBoot.kernelCode.index < shape.entries
    cases shape <;> decide
  | kernelData =>
    show ProtectedBoot.kernelData.index < shape.entries
    cases shape <;> decide
  | userCode some_user =>
    cases shape with
    | kernelOnly => cases some_user
    | withUser =>
      cases some_user
      decide
  | userData some_user =>
    cases shape with
    | kernelOnly => cases some_user
    | withUser =>
      cases some_user
      decide

theorem finds (provided : t.selectors.Provides s) (rest : List Byte) :
    t.Finds (t.toBytes ++ rest) s := by
  have inside := index_lt_of_provides provided
  have at_index : t.descriptors[s.index]? = some t.descriptors[s.index] := by simp [inside]
  constructor
  case within =>
    rw [s.toNat_and_not_seven, toNat_limit]
    omega
  case descriptor =>
    refine ⟨_, at_index, ?_⟩
    rw [s.toNat_and_not_seven]
    exact (t.holds_descriptor rest at_index).doubleWord?

/-! ## The table in memory -/

/-- **The processor reads the table that was written**, whatever the table holds. It can be pointed to
where it starts at a multiple of eight and ends below 4 GiB, and the bytes of the pointer then tell of
all bytes of the table and no other. A buffer that holds as many bytes takes the table, descriptor by
descriptor, and keeps what lies behind it; every selector that the table provides leads to its
descriptor there. A smaller buffer is left alone. -/
theorem serialize_read_back (t : GlobalTable shape) (base : Word) (buffer : List Byte) :
    ((∃ p, t.pointerAt base = .ok p) ↔
      8 ∣ base.toNat ∧ base.toNat + 8 * shape.entries ≤ 0x100000000) ∧
    (∀ p, t.pointerAt base = .ok p → p.Tells base (8 * shape.entries)) ∧
    (8 * shape.entries ≤ buffer.length →
      ∃ image, t.serialize buffer = (.ok (8 * shape.entries), image) ∧ t.Overwrites buffer image ∧
        ∀ {c : SegmentClass} (s : Selector c), t.selectors.Provides s → t.Finds image s) ∧
    (buffer.length < 8 * shape.entries →
      t.serialize buffer = (.error (.bufferTooSmall (8 * shape.entries) buffer.length), buffer)) := by
  refine ⟨exists_pointerAt_iff, fun p => tells_of_pointerAt, ?fits, ?small⟩
  case fits =>
    intro fits
    refine ⟨_, if_pos fits, t.overwrites fits, ?_⟩
    intro c s provided
    exact finds provided _
  case small =>
    intro small
    exact if_neg (Nat.not_le.2 small)

/-- The flat table with user segments, at 2 KiB, and two buffers: one byte too large and one byte too
small. -/
theorem serialize_read_back_flat :
    (∃ p, (flat .withUser).pointerAt 0x800 = .ok p ∧ p.Tells 0x800 40) ∧
    (∃ image, (flat .withUser).serialize (List.replicate 41 0xEE) = (.ok 40, image) ∧
      image[40]? = some 0xEE ∧ (flat .withUser).Finds image userData) ∧
    (flat .withUser).serialize (List.replicate 39 0xEE) =
      (.error (.bufferTooSmall 40 39), List.replicate 39 0xEE) := by
  obtain ⟨located, tells, large, -⟩ :=
    serialize_read_back (flat .withUser) 0x800 (List.replicate 41 0xEE)
  obtain ⟨-, -, -, small⟩ := serialize_read_back (flat .withUser) 0x800 (List.replicate 39 0xEE)
  obtain ⟨p, at_base⟩ := located.2 (by decide)
  obtain ⟨image, written, overwritten, found⟩ := large (by decide)
  refine ⟨⟨p, at_base, tells p at_base⟩, ⟨image, written, ?_, found userData (.userData rfl)⟩,
    small (by decide)⟩
  have behind := congrArg (fun l => l[0]?) overwritten.rest
  simpa [TableShape.entries] using behind

end GlobalTable

end ProtectedBoot
