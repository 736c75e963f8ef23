import ProtectedBoot.Bytes
import ProtectedBoot.Bits.Format
import ProtectedBoot.Platform

/-!
# The boot loader's header

A boot loader searches the first 8 KiB of the image for three words: a magic number, a word of
flags, and a checksum that completes the other two to zero. `Header.find` searches as it does, and
`Header.emit` makes a header that it accepts.
-/

namespace ProtectedBoot.Multiboot

/-! ## Requests to the boot loader -/

namespace HeaderFlags

/-- Modules start pages. -/
def alignModules : Flag 32 := { offset := 0 }

/-- The kernel wants to know about memory. -/
def memoryInfo : Flag 32 := { offset := 1 }

/-- The kernel wants to know about the video mode. -/
def videoMode : Flag 32 := { offset := 2 }

/-- The requests that a header of three words can express. -/
def format : Format 32 where
  name := "HeaderFlags"
  initial := 0
  parts := [
    .flag "align_modules" alignModules,
    .flag "memory_info" memoryInfo,
    .flag "video_mode" videoMode]

/-- A word of requests. -/
def ofRequests (modules memory video : Bool) : Word :=
  videoMode.assign (memoryInfo.assign (alignModules.assign 0 modules) memory) video

/-- What the kernel requests. -/
def boot : Word := ofRequests true true false

end HeaderFlags

/-! ## The header -/

/-- The number that a header starts with. -/
def headerMagic : Word := 0x1BADB002

/-- The three words of a header. -/
structure Header where
  magic : Word
  flags : Word
  checksum : Word
deriving DecidableEq

namespace Header

/-- The bytes of a header. -/
def byteCount : Nat := 12

/-- The word that completes two others to zero. -/
def complement (magic flags : Word) : Word := 0 - (magic + flags)

/-- The header for a word of requests. -/
def emit (flags : Word) : Header := ⟨headerMagic, flags, complement headerMagic flags⟩

/-- Whether a boot loader accepts the header. -/
def isValid (h : Header) : Bool :=
  h.magic = headerMagic ∧ h.magic + h.flags + h.checksum = 0

/-- The header as it lies in the image. -/
def toBytes (h : Header) : List Byte :=
  littleEndian 4 h.magic ++ littleEndian 4 h.flags ++ littleEndian 4 h.checksum

/-- The header, valid or not, at an offset of a byte string. -/
def read? (bytes : Bytes) (offset : Nat) : Option Header := do
  return ⟨← bytes.word? offset, ← bytes.word? (offset + 4), ← bytes.word? (offset + 8)⟩

/-- A header that a boot loader accepts lies at an offset of a byte string: three words in a row that
add up to zero, the first of them the magic number. -/
def ValidAt (bytes : Bytes) (offset : Nat) : Prop :=
  ∃ flags checksum, bytes.word? offset = some headerMagic ∧ bytes.word? (offset + 4) = some flags ∧
    bytes.word? (offset + 8) = some checksum ∧ headerMagic + flags + checksum = 0

/-- The offset of the first valid header that a boot loader finds in an image: it looks at every
fourth byte of the search window. -/
def find (image : Bytes) : Option Nat :=
  let window := image.take Platform.searchWindow.toNat
  ((List.range ((window.size + 3) / 4)).map (4 * ·)).find? fun k =>
    (read? window k).any isValid

/-- **A boot loader accepts what is emitted**, whatever is requested. -/
theorem isValid_emit (flags : Word) : (emit flags).isValid = true := by
  simp only [isValid, emit, complement, decide_eq_true_eq, true_and]
  generalize headerMagic = m
  apply BitVec.eq_of_toNat_eq
  simp only [BitVec.toNat_add, BitVec.toNat_sub]
  omega

end Header

end ProtectedBoot.Multiboot
