import ProtectedBoot.Proofs.Bytes
import ProtectedBoot.Segment.Descriptor

/-!
# A descriptor and its parts

Base, limit, access byte and flags determine a descriptor, and a descriptor determines them. Either
way leads through the bits: `Encodes` says where in a descriptor each part stands. A descriptor
encodes what it was put together from (`encodes_pack`), and what is taken out of it is what it encodes
(`encodes_parts` and `Encodes.base_eq`, `Encodes.limit_eq`, …). The runs of bits that `Encodes` speaks
of leave out no bit, so there is one descriptor for each choice of parts (`Encodes.unique`): the one
that `ofParts` answers if they fit (`ofParts_eq_ok_iff`).
-/

namespace ProtectedBoot

namespace Descriptor

variable {base limit : Word} {access flags : Byte} {d e : Descriptor}

/-! ## Putting a descriptor together -/

/-- **What is written is found where the processor looks for it.** -/
theorem encodes_pack (base limit : Word) (access flags : Byte) :
    (pack base (limit.setWidth 20) access (flags.setWidth 4)).Encodes base limit access flags := by
  -- Each part is read past the writes that come after its own, which are to other fields.
  have past {n m : Nat} {f : Field 64 n} {g : Field 64 m} (apart : f.Disjoint g) (v : DoubleWord)
      (x : BitVec n) : g.get (f.set v x) = g.get v := Field.get_set_of_disjoint apart v x
  unfold pack
  constructor
  case limitLow =>
    show Descriptor.limitLow.get _ = _
    rw [past (by decide), past (by decide), past (by decide), past (by decide), past (by decide),
      Field.get_set, BitVec.setWidth_eq_extractLsb' (by decide)]
    exact BitVec.extractLsb'_setWidth_of_le (by decide)
  case limitHigh =>
    show Descriptor.limitHigh.get _ = _
    rw [past (by decide), past (by decide), past (by decide), past (by decide), Field.get_set]
    exact BitVec.extractLsb'_setWidth_of_le (by decide)
  case baseLow =>
    show Descriptor.baseLow.get _ = _
    rw [past (by decide), past (by decide), past (by decide), Field.get_set]
    exact BitVec.setWidth_eq_extractLsb' (by decide)
  case baseHigh =>
    show Descriptor.baseHigh.get _ = _
    rw [past (by decide), past (by decide), Field.get_set]
  case access =>
    show accessField.get _ = _
    rw [past (by decide), Field.get_set]
  case flags =>
    show flagsField.get _ = _
    rw [Field.get_set]
    exact BitVec.setWidth_eq_extractLsb' (by decide)

/-! ## Taking it apart -/

/-- A descriptor encodes the parts that are taken out of it. -/
theorem encodes_parts (d : Descriptor) :
    d.Encodes d.base (d.limit.setWidth 32) d.access (d.flags.setWidth 8) where
  limitLow := by
    rw [BitVec.extractLsb'_setWidth_of_le (by decide)]
    exact BitVec.extractLsb'_append_eq_right.symm
  baseLow := BitVec.extractLsb'_append_eq_right.symm
  access := rfl
  limitHigh := by
    rw [BitVec.extractLsb'_setWidth_of_le (by decide)]
    exact BitVec.extractLsb'_append_eq_left.symm
  flags := by
    rw [BitVec.extractLsb'_setWidth_of_le (by decide)]
    exact BitVec.extractLsb'_eq_self.symm
  baseHigh := BitVec.extractLsb'_append_eq_left.symm

namespace Encodes

theorem base_eq (h : d.Encodes base limit access flags) : d.base = base := by
  show d.bits.extractLsb' 56 8 ++ d.bits.extractLsb' 16 24 = base
  rw [h.baseHigh, h.baseLow]
  exact (BitVec.extractLsb'_append_extractLsb'_eq_extractLsb' (by rfl)).trans
    BitVec.extractLsb'_eq_self

theorem limit_eq (h : d.Encodes base limit access flags) : d.limit = limit.setWidth 20 := by
  show d.bits.extractLsb' 48 4 ++ d.bits.extractLsb' 0 16 = _
  rw [h.limitHigh, h.limitLow, BitVec.setWidth_eq_extractLsb' (by decide)]
  exact BitVec.extractLsb'_append_extractLsb'_eq_extractLsb' (by rfl)

theorem flags_eq (h : d.Encodes base limit access flags) : d.flags = flags.setWidth 4 := by
  rw [BitVec.setWidth_eq_extractLsb' (by decide)]
  exact h.flags

/-- **Parts are encoded by one descriptor only.** -/
theorem unique (h : d.Encodes base limit access flags) (h' : e.Encodes base limit access flags) :
    d = e := by
  have bits : d.bits = e.bits := by
    apply BitVec.eq_of_getLsbD_eq
    intro i hi
    have run {start n : Nat} (same : d.bits.extractLsb' start n = e.bits.extractLsb' start n)
        (from_start : start ≤ i) (to_stop : i < start + n) :
        d.bits.getLsbD i = e.bits.getLsbD i := by
      have bit := congrArg (fun x => BitVec.getLsbD x (i - start)) same
      have inside : i - start < n := by omega
      simpa [inside, Nat.add_sub_cancel' from_start] using bit
    -- The runs lie side by side, so every bit lies in one of them.
    rcases (by omega : i < 16 ∨ (16 ≤ i ∧ i < 40) ∨ (40 ≤ i ∧ i < 48) ∨ (48 ≤ i ∧ i < 52) ∨
      (52 ≤ i ∧ i < 56) ∨ 56 ≤ i) with lt | ⟨ge, lt⟩ | ⟨ge, lt⟩ | ⟨ge, lt⟩ | ⟨ge, lt⟩ | ge
    · exact run (h.limitLow.trans h'.limitLow.symm) (Nat.zero_le i) (by omega)
    · exact run (h.baseLow.trans h'.baseLow.symm) ge lt
    · exact run (h.access.trans h'.access.symm) ge lt
    · exact run (h.limitHigh.trans h'.limitHigh.symm) ge lt
    · exact run (h.flags.trans h'.flags.symm) ge lt
    · exact run (h.baseHigh.trans h'.baseHigh.symm) ge hi
  exact congrArg Descriptor.mk bits

end Encodes

/-! ## There and back -/

/-- **What `ofParts` answers**: the descriptor that encodes the parts, if they fit. -/
theorem ofParts_eq_ok_iff :
    ofParts base limit access flags = .ok d ↔
      limit.toNat ≤ 0xFFFFF ∧ flags.toNat < 16 ∧ d.Encodes base limit access flags := by
  have widest : maxLimit.toNat = 0xFFFFF := rfl
  rw [ofParts, widest]
  split
  · rename_i wide
    simp only [reduceCtorEq, false_iff]
    intro fits
    omega
  · rename_i limit_fits
    rw [Nat.not_lt] at limit_fits
    split
    · rename_i wide
      simp only [reduceCtorEq, false_iff]
      intro fits
      omega
    · rename_i flags_fit
      rw [Nat.not_le] at flags_fit
      have packed := encodes_pack base limit access flags
      constructor
      · intro built
        cases built
        exact ⟨limit_fits, flags_fit, packed⟩
      · rintro ⟨-, -, encoded⟩
        rw [packed.unique encoded]

/-- The parts that are taken out of a descriptor fit. -/
theorem ofParts_parts (d : Descriptor) :
    ofParts d.base (d.limit.setWidth 32) d.access (d.flags.setWidth 8) = .ok d := by
  rw [ofParts_eq_ok_iff]
  refine ⟨?_, ?_, d.encodes_parts⟩
  · have narrow := d.limit.isLt
    rw [BitVec.toNat_setWidth_of_le (by decide)]
    omega
  · rw [BitVec.toNat_setWidth_of_le (by decide)]
    exact d.flags.isLt

/-- **Descriptors and parts determine each other.** Parts that fit are put together into the
descriptor that has them where the processor looks for them, and come out of it again; every
descriptor is put together again from what is taken out of it, and its bytes are its digits in base
256; and a limit that needs more than 20 bits is a fault. -/
theorem ofParts_inverse :
    (∀ (base limit : Word) (access flags : Byte), limit.toNat ≤ 0xFFFFF → flags.toNat < 16 →
      ∃ d, ofParts base limit access flags = .ok d ∧ d.Encodes base limit access flags ∧
        d.base = base ∧ d.limit.setWidth 32 = limit ∧ d.access = access ∧
        d.flags.setWidth 8 = flags) ∧
    (∀ d : Descriptor,
      ofParts d.base (d.limit.setWidth 32) d.access (d.flags.setWidth 8) = .ok d ∧
        d.toBytes.length = 8 ∧ Nat.ofDigits 256 (d.toBytes.map BitVec.toNat) = d.bits.toNat) ∧
    ∀ (base limit : Word) (access flags : Byte), 0xFFFFF < limit.toNat →
      ofParts base limit access flags = .error .limitTooWide := by
  refine ⟨?there, ?back, ?wide⟩
  case there =>
    intro base limit access flags limit_fits flags_fit
    have packed := encodes_pack base limit access flags
    refine ⟨_, ofParts_eq_ok_iff.2 ⟨limit_fits, flags_fit, packed⟩, packed, packed.base_eq, ?_,
      packed.access, ?_⟩
    · rw [packed.limit_eq]
      apply BitVec.eq_of_toNat_eq
      rw [BitVec.toNat_setWidth_of_le (by decide), BitVec.toNat_setWidth]
      exact Nat.mod_eq_of_lt (by omega)
    · rw [packed.flags_eq]
      apply BitVec.eq_of_toNat_eq
      rw [BitVec.toNat_setWidth_of_le (by decide), BitVec.toNat_setWidth]
      exact Nat.mod_eq_of_lt flags_fit
  case back =>
    intro d
    exact ⟨d.ofParts_parts, littleEndian_length 8 d.bits, ofDigits_littleEndian_of_width d.bits rfl⟩
  case wide =>
    intro base limit access flags wide
    rw [ofParts]
    exact if_pos wide

/-- A segment of writable data, somewhere in memory, and its bits; and a limit that is one too
large. -/
theorem ofParts_inverse_scattered :
    (∃ d, ofParts 0x12345678 0xABCDE 0x92 0b0100 = .ok d ∧ d.bits = 0x124A92345678BCDE ∧
      d.base = 0x12345678 ∧ d.limit.setWidth 32 = (0xABCDE : Word) ∧ d.access = 0x92 ∧
      d.flags.setWidth 8 = (0b0100 : Byte)) ∧
    ofParts 0x12345678 0x100000 0x92 0b0100 = .error .limitTooWide := by
  obtain ⟨there, -, wide⟩ := ofParts_inverse
  obtain ⟨d, built, -, parts⟩ := there 0x12345678 0xABCDE 0x92 0b0100 (by decide) (by decide)
  refine ⟨⟨d, built, ?_, parts⟩, wide _ _ _ _ (by decide)⟩
  have answer : (ofParts 0x12345678 0xABCDE 0x92 0b0100).map bits = .ok 0x124A92345678BCDE := by
    decide +kernel
  rw [built] at answer
  exact Except.ok.inj answer

end Descriptor

end ProtectedBoot
