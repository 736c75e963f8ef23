import ProtectedBoot.Multiboot.MemoryMap

/-!
# Records of the memory map, as a boot loader writes them

A boot loader writes record after record without a gap. What a record says beyond its region is for
readers that know more than this one. `regionsWithin` is what the first bytes of such a map tell: the
regions of the records that begin to say something within them.

`Chain` is the other half: the offsets at which a reader of arbitrary bytes finds records, whoever
wrote them.
-/

namespace ProtectedBoot.Multiboot

/-! ## Writing -/

/-- A record of the memory map. -/
structure MapRecord where
  base : DoubleWord
  length : DoubleWord
  /-- The code of the region's kind. -/
  code : Word
  /-- What the boot loader says beyond the region. -/
  extra : List Byte
  /-- The size of the record is a word. -/
  extra_lt : extra.length + 20 < 0x100000000

namespace MapRecord

/-- The bytes that follow the size. -/
def size (r : MapRecord) : Nat := 20 + r.extra.length

/-- The region that the record tells of. -/
def region (r : MapRecord) : Region := ⟨r.base, r.length, .ofCode r.code⟩

/-- The record as it lies in the map. -/
def toBytes (r : MapRecord) : List Byte :=
  littleEndian 4 (BitVec.ofNat 32 r.size) ++ littleEndian 8 r.base ++ littleEndian 8 r.length ++
    littleEndian 4 r.code ++ r.extra

theorem length_toBytes (r : MapRecord) : r.toBytes.length = 4 + r.size := by
  simp only [toBytes, size, List.length_append, littleEndian_length]
  omega

/-- Records one behind the other. -/
def concat (records : List MapRecord) : List Byte := records.flatMap toBytes

/-- Records with the offsets at which they lie, the first at `offset`. -/
def placed (offset : Nat) : List MapRecord → List (Nat × MapRecord)
  | [] => []
  | r :: rest => (offset, r) :: placed (offset + r.toBytes.length) rest

/-- The regions of the records whose first 24 bytes lie within the first `k` bytes of the map. -/
def regionsWithin (k : Nat) (records : List MapRecord) : List Region :=
  ((placed 0 records).filter fun p => p.1 + 24 ≤ k).map fun p => p.2.region

end MapRecord

/-! ## Reading -/

/-- The offsets of the records that a reader finds from an offset on. A record is found where its
first 24 bytes lie in the map and its size covers a region; the next one follows behind it. -/
inductive Chain (b : Bytes) : Nat → List Nat → Prop where
  /-- The map ends within the first bytes of a record. -/
  | cut {o : Nat} : b.size < o + 24 → Chain b o []
  /-- The record is too small. -/
  | small {o : Nat} {size : Word} :
      b.word? o = some size → size.toNat < 20 → Chain b o []
  /-- There is a record. -/
  | record {o : Nat} {size : Word} {rest : List Nat} :
      o + 24 ≤ b.size → b.word? o = some size → 20 ≤ size.toNat →
      Chain b (o + 4 + size.toNat) rest → Chain b o (o :: rest)

/-- **There is one chain from each offset.** -/
theorem Chain.unique {b : Bytes} {o : Nat} {l m : List Nat} (h : Chain b o l) (k : Chain b o m) :
    l = m := by
  induction h generalizing m with
  | cut hc => cases k with
    | cut | small => rfl
    | record hi => omega
  | small hs hlt => cases k with
    | cut | small => rfl
    | record _ hs' hge =>
      cases hs.symm.trans hs'
      omega
  | record hi hs hge _ ih => cases k with
    | cut hc => omega
    | small hs' hlt =>
      cases hs.symm.trans hs'
      omega
    | record _ hs' _ rest =>
      cases hs.symm.trans hs'
      rw [ih rest]

end ProtectedBoot.Multiboot
