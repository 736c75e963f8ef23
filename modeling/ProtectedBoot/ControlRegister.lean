import ProtectedBoot.Address
import ProtectedBoot.Bits.Format

/-!
# Control registers

The bits of `CR0`, `CR3` and `CR4` that a 32-bit kernel deals with. Bits without a name here are
reserved: reading keeps them and writing a named field leaves them as they were, so a
read-modify-write changes only what it names.
-/

namespace ProtectedBoot

/-! ## CR0: operating mode -/

namespace Cr0

/-- `PE`: segment registers hold selectors. -/
def protection : Flag 32 := { offset := 0 }

/-- `MP`: how waiting for the coprocessor interacts with task switches. -/
def monitorCoprocessor : Flag 32 := { offset := 1 }

/-- `EM`: there is no coprocessor. -/
def emulation : Flag 32 := { offset := 2 }

/-- `TS`: a task switch happened. -/
def taskSwitched : Flag 32 := { offset := 3 }

/-- `ET`: wired to one on everything newer than the first 32-bit processor. -/
def extensionType : Flag 32 := { offset := 4 }

/-- `NE`: coprocessor errors are exceptions. -/
def numericError : Flag 32 := { offset := 5 }

/-- `WP`: supervisor writes respect read-only pages. -/
def writeProtect : Flag 32 := { offset := 16 }

/-- `AM`: alignment checks may be turned on. -/
def alignmentMask : Flag 32 := { offset := 18 }

/-- `NW`: writes need not go through to memory. -/
def notWriteThrough : Flag 32 := { offset := 29 }

/-- `CD`: the cache is off. -/
def cacheDisable : Flag 32 := { offset := 30 }

/-- `PG`: addresses are translated. -/
def paging : Flag 32 := { offset := 31 }

/-- The named bits of the register. -/
def format : Format 32 where
  name := "Cr0"
  initial := 0
  parts := [
    .flag "pe_protection_enable" protection,
    .flag "mp_monitor_coprocessor" monitorCoprocessor,
    .flag "em_emulation" emulation,
    .flag "ts_task_switched" taskSwitched,
    .flag "et_extension_type" extensionType,
    .flag "ne_numeric_error" numericError,
    .flag "wp_write_protect" writeProtect,
    .flag "am_alignment_mask" alignmentMask,
    .flag "nw_not_write_through" notWriteThrough,
    .flag "cd_cache_disable" cacheDisable,
    .flag "pg_paging" paging]

end Cr0

/-! ## CR3: the page directory -/

namespace Cr3

/-- Bits that must be zero, below the cache controls. -/
def reservedLow : Field 32 3 := { offset := 0 }

/-- `PWT`: the directory is cached write-through. -/
def writeThrough : Flag 32 := { offset := 3 }

/-- `PCD`: the directory is not cached. -/
def cacheDisable : Flag 32 := { offset := 4 }

/-- Bits that must be zero, above the cache controls. -/
def reservedHigh : Field 32 7 := { offset := 5 }

/-- The page number of the directory. -/
def directoryNumber : Field 32 20 := { offset := 12 }

/-- The named bits of the register. -/
def format : Format 32 where
  name := "Cr3"
  initial := 0
  parts := [
    .number "reserved0" reservedLow,
    .flag "pwt" writeThrough,
    .flag "pcd" cacheDisable,
    .number "reserved1" reservedHigh,
    (Part.number "pd_base_4k" directoryNumber).internal]

/-- The register value that selects a directory; a fault unless the directory starts a page. -/
def ofDirectory (directory : PhysAddr) (isWriteThrough isCacheDisabled : Bool) :
    Except Fault Word :=
  if directory.isAligned .kib4 then
    let cached := cacheDisable.assign (writeThrough.assign 0 isWriteThrough) isCacheDisabled
    .ok (directoryNumber.set cached ((directory.bits >>> 12).setWidth 20))
  else .error .directoryUnaligned

/-- The directory that a register value selects. -/
def directory (v : Word) : PhysAddr := ⟨(directoryNumber.get v).setWidth 32 <<< 12⟩

end Cr3

/-! ## CR4: extensions -/

namespace Cr4

/-- `VME`: extensions for real-mode tasks. -/
def virtualMode : Flag 32 := { offset := 0 }

/-- `PVI`: a virtual interrupt flag in protected mode. -/
def protectedInterrupts : Flag 32 := { offset := 1 }

/-- `TSD`: reading the time stamp is privileged. -/
def timeStampDisable : Flag 32 := { offset := 2 }

/-- `DE`: input and output breakpoints. -/
def debugging : Flag 32 := { offset := 3 }

/-- `PSE`: the directory may hold 4 MiB pages. -/
def pageSizeExtensions : Flag 32 := { offset := 4 }

/-- `PAE`: wide page tables; two-level paging needs it clear. -/
def physicalExtension : Flag 32 := { offset := 5 }

/-- `MCE`: machine-check exceptions. -/
def machineCheck : Flag 32 := { offset := 6 }

/-- `PGE`: global pages. -/
def globalPages : Flag 32 := { offset := 7 }

/-- `PCE`: performance counters outside the kernel. -/
def performanceCounters : Flag 32 := { offset := 8 }

/-- `OSFXSR`: the kernel saves the wide register state. -/
def saveExtended : Flag 32 := { offset := 9 }

/-- `OSXMMEXCPT`: the kernel handles vector exceptions. -/
def vectorExceptions : Flag 32 := { offset := 10 }

/-- Everything that the kernel leaves alone. -/
def unused : Field 32 21 := { offset := 11 }

/-- The named bits of the register. -/
def format : Format 32 where
  name := "Cr4"
  initial := 0
  parts := [
    .flag "vme" virtualMode,
    .flag "pvi" protectedInterrupts,
    .flag "tsd" timeStampDisable,
    .flag "de" debugging,
    .flag "pse" pageSizeExtensions,
    .flag "pae" physicalExtension,
    .flag "mce" machineCheck,
    .flag "pge" globalPages,
    .flag "pce" performanceCounters,
    .flag "osfxsr" saveExtended,
    .flag "osxmmexcpt" vectorExceptions,
    (Part.number "reserved" unused).readOnly]

end Cr4

end ProtectedBoot
