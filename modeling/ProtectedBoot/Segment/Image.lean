import Mathlib.Data.Nat.Digits.Defs
import ProtectedBoot.Bytes
import ProtectedBoot.Segment.GlobalTable

/-!
# The table that the processor reads

Where the processor looks for a descriptor is settled by three encodings that know nothing of each
other: the six bytes of the pointer say which bytes make up the table, the bytes of the buffer hold
the descriptors, and a selector without its lowest three bits is an offset into the table. This
module says what each of them tells, byte by byte and bit by bit.
-/

namespace ProtectedBoot

/-- The selectors of a table, one by one. -/
inductive Selectors.Provides (S : Selectors) : {c : SegmentClass} → Selector c → Prop where
  | kernelCode : S.Provides S.kernelCode
  | kernelData : S.Provides S.kernelData
  | userCode {s : Selector .code} : S.userCode = some s → S.Provides s
  | userData {s : Selector .data} : S.userData = some s → S.Provides s

/-- The six bytes of the pointer tell the processor of `count` bytes from `base` on: the last of
them is `limit` bytes behind the first. -/
structure TablePointer.Tells (p : TablePointer) (base : Word) (count : Nat) : Prop where
  length : p.toBytes.length = 6
  limit : Nat.ofDigits 256 ((p.toBytes.take 2).map BitVec.toNat) + 1 = count
  base : Nat.ofDigits 256 ((p.toBytes.drop 2).map BitVec.toNat) = base.toNat

namespace GlobalTable

variable {shape : TableShape}

/-- Writing the table over the start of `buffer` leaves `image`: descriptor `i` takes the eight bytes
from `8 * i` on, least significant byte first, and the buffer behind the table stays. -/
structure Overwrites (t : GlobalTable shape) (buffer image : List Byte) : Prop where
  length : image.length = buffer.length
  descriptors : ∀ (i : Fin shape.entries) (j : Fin 8),
    image[8 * i.val + j.val]? = some (t.descriptors[i].bits.extractLsb' (8 * j.val) 8)
  rest : image.drop (8 * shape.entries) = buffer.drop (8 * shape.entries)

/-- The processor finds a descriptor of the table in `image` when it follows a selector: the double
word at the offset that the selector encodes lies within the limit, and it is the descriptor at the
index of the selector. -/
structure Finds {c : SegmentClass} (t : GlobalTable shape) (image : List Byte) (s : Selector c) :
    Prop where
  within : (s.bits &&& ~~~7#16).toNat + 7 ≤ t.limit.toNat
  descriptor : ∃ d, t.descriptors[s.index]? = some d ∧
    (Bytes.ofList image).doubleWord? (s.bits &&& ~~~7#16).toNat = some d.bits

end GlobalTable

end ProtectedBoot
