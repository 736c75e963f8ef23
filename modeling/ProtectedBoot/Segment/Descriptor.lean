import ProtectedBoot.Bits.Format
import ProtectedBoot.Privilege

/-!
# Segment descriptors

A descriptor is a double word whose parts are scattered for historical reasons: the base and the
limit come in two pieces each, around the access byte and a nibble of flags. `Descriptor.pack` puts
the parts together; `base`, `limit`, `access` and `flags` take them out again.
-/

namespace ProtectedBoot

/-! ## The access byte -/

namespace AccessByte

/-- The processor sets it on first use. -/
def accessed : Flag 8 := { offset := 0 }

/-- Code may be read, data may be written. -/
def readableWritable : Flag 8 := { offset := 1 }

/-- Code is conforming, data grows downwards. -/
def directionConforming : Flag 8 := { offset := 2 }

/-- The segment holds code. -/
def executable : Flag 8 := { offset := 3 }

/-- The descriptor is one of code or data, not one of the system. -/
def ordinary : Flag 8 := { offset := 4 }

/-- The privilege level of the segment. -/
def ring : Field 8 2 := { offset := 5 }

/-- The descriptor is in use. -/
def present : Flag 8 := { offset := 7 }

/-- The parts of an access byte. -/
def format : Format 8 where
  name := "AccessByte"
  initial := 0
  parts := [
    .flag "accessed" accessed,
    .flag "readable_writable" readableWritable,
    .flag "direction_conforming" directionConforming,
    .flag "executable" executable,
    .flag "descriptor_type" ordinary,
    .coded "dpl" ring (fun n => (Ring.ofBits n).level) (fun n => (Ring.ofBits n).name),
    .flag "present" present]

/-- A present segment of code or data at a privilege level. -/
def segment (r : Ring) : Byte :=
  ordinary.assign (ring.set (present.assign 0 true) (BitVec.ofNat 2 r.level)) true

/-- Readable, non-conforming code. -/
def code (r : Ring) : Byte := readableWritable.assign (executable.assign (segment r) true) true

/-- Writable data that grows upwards. -/
def data (r : Ring) : Byte := readableWritable.assign (segment r) true

/-- The privilege level of an access byte. -/
def ringOf (access : Byte) : Ring := .ofBits (ring.get access).toNat

end AccessByte

/-! ## The flags nibble -/

namespace DescriptorFlags

/-- Free for software. -/
def available : Flag 8 := { offset := 0 }

/-- 64-bit code; clear on this machine. -/
def longMode : Flag 8 := { offset := 1 }

/-- Operands have 32 bits. -/
def defaultSize : Flag 8 := { offset := 2 }

/-- The limit counts units of 4 KiB. -/
def granularity : Flag 8 := { offset := 3 }

/-- The parts of a flags nibble, held in a byte. -/
def format : Format 8 where
  name := "GateFlags"
  initial := 0
  parts := [
    .flag "available" available,
    .flag "long_mode" longMode,
    .flag "default_size" defaultSize,
    .flag "granularity" granularity]

/-- 32-bit operands and a limit in units of 4 KiB. -/
def flat : Byte := granularity.assign (defaultSize.assign 0 true) true

end DescriptorFlags

/-! ## The descriptor -/

/-- A segment descriptor. -/
structure Descriptor where
  bits : DoubleWord
deriving DecidableEq

namespace Descriptor

/-- Bits 0 to 15 of the limit. -/
def limitLow : Field 64 16 := { offset := 0 }

/-- Bits 0 to 23 of the base. -/
def baseLow : Field 64 24 := { offset := 16 }

/-- The access byte. -/
def accessField : Field 64 8 := { offset := 40 }

/-- Bits 16 to 19 of the limit. -/
def limitHigh : Field 64 4 := { offset := 48 }

/-- The flags nibble. -/
def flagsField : Field 64 4 := { offset := 52 }

/-- Bits 24 to 31 of the base. -/
def baseHigh : Field 64 8 := { offset := 56 }

/-- The parts of a descriptor. -/
def format : Format 64 where
  name := "Gate"
  initial := 0
  parts := [
    (Part.number "limit_lo" limitLow).internal,
    (Part.number "base_lo" baseLow).internal,
    .coded "access" accessField id fun n => AccessByte.format.outline (BitVec.ofNat 8 n),
    (Part.number "limit_hi" limitHigh).internal,
    .coded "flags" flagsField id fun n => DescriptorFlags.format.outline (BitVec.ofNat 8 n),
    (Part.number "base_hi" baseHigh).internal]

/-- The largest limit there is a field for. -/
def maxLimit : Word := 0xFFFFF

/-- The empty descriptor that starts every table. -/
def null : Descriptor := ⟨0⟩

/-- Put a descriptor together from parts that fit. -/
def pack (base : Word) (limit : BitVec 20) (access : Byte) (flags : BitVec 4) : Descriptor :=
  let limited := limitHigh.set (limitLow.set 0 (limit.setWidth 16)) (limit.extractLsb' 16 4)
  let based := baseHigh.set (baseLow.set limited (base.setWidth 24)) (base.extractLsb' 24 8)
  ⟨flagsField.set (accessField.set based access) flags⟩

/-- Put a descriptor together; a fault if the limit or the flags are too wide. -/
def ofParts (base limit : Word) (access flags : Byte) : Except Fault Descriptor :=
  if maxLimit.toNat < limit.toNat then .error .limitTooWide
  else if 16 ≤ flags.toNat then .error (.fieldTooNarrow 4)
  else .ok (pack base (limit.setWidth 20) access (flags.setWidth 4))

/-- Code at privilege level `r` over the whole address space. -/
def flatCode (r : Ring) : Descriptor :=
  pack 0 (maxLimit.setWidth 20) (AccessByte.code r) (DescriptorFlags.flat.setWidth 4)

/-- Writable data at privilege level `r` over the whole address space. -/
def flatData (r : Ring) : Descriptor :=
  pack 0 (maxLimit.setWidth 20) (AccessByte.data r) (DescriptorFlags.flat.setWidth 4)

/-- The first address of the segment. -/
def base (d : Descriptor) : Word := baseHigh.get d.bits ++ baseLow.get d.bits

/-- The limit of the segment. -/
def limit (d : Descriptor) : BitVec 20 := limitHigh.get d.bits ++ limitLow.get d.bits

/-- The access byte. -/
def access (d : Descriptor) : Byte := accessField.get d.bits

/-- The flags nibble. -/
def flags (d : Descriptor) : BitVec 4 := flagsField.get d.bits

/-- Whether the descriptor is in use. -/
def isPresent (d : Descriptor) : Bool := AccessByte.present.isSet d.access

/-- The descriptor in memory order. -/
def toBytes (d : Descriptor) : List Byte := littleEndian 8 d.bits

/-! ## The format -/

/-- Where the processor looks for the parts of a descriptor, read off its bits. The limit is the low
20 bits of a word, and the flags are the low half of a byte. -/
structure Encodes (d : Descriptor) (base limit : Word) (access flags : Byte) : Prop where
  limitLow : d.bits.extractLsb' 0 16 = limit.extractLsb' 0 16
  baseLow : d.bits.extractLsb' 16 24 = base.extractLsb' 0 24
  access : d.bits.extractLsb' 40 8 = access
  limitHigh : d.bits.extractLsb' 48 4 = limit.extractLsb' 16 4
  flags : d.bits.extractLsb' 52 4 = flags.extractLsb' 0 4
  baseHigh : d.bits.extractLsb' 56 8 = base.extractLsb' 24 8

end Descriptor

end ProtectedBoot
