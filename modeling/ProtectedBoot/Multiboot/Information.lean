import ProtectedBoot.Address
import ProtectedBoot.Bits.Format
import ProtectedBoot.Memory

/-!
# The information structure

The boot loader leaves eighteen words in memory. The first of them is a set of flags that says which
of the others mean anything; the rest may hold whatever was there before.
-/

namespace ProtectedBoot.Multiboot

/-! ## Validity flags -/

namespace InfoFlags

/-- The sizes of lower and upper memory. -/
def memory : Flag 32 := { offset := 0 }

/-- The disk the kernel was loaded from. -/
def bootDevice : Flag 32 := { offset := 1 }

/-- The kernel's command line. -/
def commandLine : Flag 32 := { offset := 2 }

/-- Modules loaded along with the kernel. -/
def modules : Flag 32 := { offset := 3 }

/-- A symbol table of the older kind. -/
def plainSymbols : Flag 32 := { offset := 4 }

/-- A table of section headers. -/
def sectionHeaders : Flag 32 := { offset := 5 }

/-- The memory map. -/
def memoryMap : Flag 32 := { offset := 6 }

/-- The disks of the firmware. -/
def drives : Flag 32 := { offset := 7 }

/-- The configuration table of the firmware. -/
def configTable : Flag 32 := { offset := 8 }

/-- The name of the boot loader. -/
def loaderName : Flag 32 := { offset := 9 }

/-- The power management table. -/
def powerTable : Flag 32 := { offset := 10 }

/-- The firmware's video interface. -/
def videoInterface : Flag 32 := { offset := 11 }

/-- The frame buffer. -/
def frameBuffer : Flag 32 := { offset := 12 }

/-- The named flags. -/
def format : Format 32 where
  name := "InfoFlags"
  initial := 0
  parts := [
    .flag "memory" memory,
    .flag "boot_device" bootDevice,
    .flag "cmdline" commandLine,
    .flag "modules" modules,
    .flag "aout_symbols" plainSymbols,
    .flag "elf_sections" sectionHeaders,
    .flag "memory_map" memoryMap,
    .flag "drives" drives,
    .flag "config_table" configTable,
    .flag "boot_loader_name" loaderName,
    .flag "apm_table" powerTable,
    .flag "vbe" videoInterface,
    .flag "framebuffer" frameBuffer]

end InfoFlags

/-! ## The structure -/

/-- The information structure, up to the power management table. -/
structure Information where
  flags : Word
  /-- KiB of memory below 1 MiB. -/
  memLower : Word
  /-- KiB of memory above 1 MiB, up to the first hole. -/
  memUpper : Word
  bootDevice : Word
  commandLine : Word
  moduleCount : Word
  moduleList : Word
  symbols : Vector Word 4
  mapLength : Word
  mapStart : PhysAddr
  driveLength : Word
  driveList : Word
  configTable : Word
  loaderName : PhysAddr
  powerTable : Word
deriving DecidableEq

namespace Information

/-- The structure whose words are the first values of `w`. -/
def ofWords (w : Nat → Word) : Information where
  flags := w 0
  memLower := w 1
  memUpper := w 2
  bootDevice := w 3
  commandLine := w 4
  moduleCount := w 5
  moduleList := w 6
  symbols := #v[w 7, w 8, w 9, w 10]
  mapLength := w 11
  mapStart := ⟨w 12⟩
  driveLength := w 13
  driveList := w 14
  configTable := w 15
  loaderName := ⟨w 16⟩
  powerTable := w 17

/-- The words of the structure in the order in which they lie in memory. -/
def words (i : Information) : List Word :=
  [i.flags, i.memLower, i.memUpper, i.bootDevice, i.commandLine, i.moduleCount, i.moduleList] ++
    i.symbols.toList ++
    [i.mapLength, i.mapStart.bits, i.driveLength, i.driveList, i.configTable, i.loaderName.bits,
      i.powerTable]

/-- The structure at an address; it need not be aligned. -/
def read (m : Memory) (start : PhysAddr) : Information :=
  ofWords fun i => m.word (start.toNat + 4 * i)

/-- The sizes of lower and upper memory in KiB, if they mean anything. -/
def basicMemory (i : Information) : Option (Word × Word) :=
  if InfoFlags.memory.isSet i.flags then some (i.memLower, i.memUpper) else none

end Information

end ProtectedBoot.Multiboot
