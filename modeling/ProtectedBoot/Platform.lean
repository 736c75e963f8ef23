import ProtectedBoot.Word

/-!
# The platform

The fixed numbers of the boot: where the image is loaded, where it is mapped, and what the boot
loader and the processor demand of it. The examples at the end are the relations between the numbers
that the rest of the boot code relies on.
-/

namespace ProtectedBoot.Platform

/-- The bytes in a page. -/
def pageBytes : Word := 4096

/-- The end of the area that the firmware and its devices occupy. -/
def legacyEnd : Word := 0x100000

/-- The physical address that the image is loaded at. -/
def loadBase : Word := 0x100000

/-- The distance from the loaded image to its upper mapping. -/
def virtOffset : Word := 0xC0000000

/-- The address of the image in its upper mapping. -/
def kernelBase : Word := loadBase + virtOffset

/-- The low memory that is mapped to itself. -/
def identityBytes : Word := 0x400000

/-- The alignment of the descriptor table. -/
def tableAlignment : Word := 0x800

/-- The leading bytes of the image in which the boot loader looks for its header. -/
def searchWindow : Word := 8192

/-- The bytes of the boot stack. -/
def stackBytes : Word := 16384

/-- The alignment of the stack pointer. -/
def stackAlignment : Word := 16

/-- The address of the text screen. -/
def textBuffer : Word := 0xB8000

example : legacyEnd.toNat ≤ loadBase.toNat := by decide
example : loadBase.toNat % pageBytes.toNat = 0 := by decide
example : virtOffset.toNat % identityBytes.toNat = 0 := by decide
example : loadBase.toNat < identityBytes.toNat := by decide
example : identityBytes.toNat < kernelBase.toNat := by decide
example : stackBytes.toNat % stackAlignment.toNat = 0 := by decide

end ProtectedBoot.Platform
