import ProtectedBoot.Log
import ProtectedBoot.Multiboot.Information
import ProtectedBoot.Multiboot.MemoryMap

/-!
# What the boot loader passed on

The boot loader hands over a magic number and the address of its information structure. A `BootInfo`
is made from the two only if the number is right and the structure says anything about memory, and it
holds the map and the name only if the flags announce them. Whatever is not announced is dropped here
and reaches nobody.
-/

namespace ProtectedBoot.Multiboot

/-- The number that a boot loader hands over. -/
def loaderMagic : Word := 0x2BADB002

/-! ## Errors -/

/-- Why there is nothing to be learnt from the boot loader. -/
inductive BootInfoError where
  /-- Something else started the kernel. -/
  | badMagic (value : Word)
  /-- There is no information structure. -/
  | nullInfo
  /-- The structure says nothing about memory. -/
  | missingMemoryInfo (flags : Word)
deriving DecidableEq

namespace BootInfoError

/-- The name of the cause. -/
def kind : BootInfoError → String
  | badMagic _ => "BadMagic"
  | nullInfo => "NullInfo"
  | missingMemoryInfo _ => "MissingMemoryInfo"

/-- The sentence that reports the error. -/
def message : BootInfoError → String
  | badMagic value =>
    s!"not booted by a Multiboot loader: eax = {Text.hexWide 8 value.toNat}"
  | nullInfo => "bootloader passed a null information pointer"
  | missingMemoryInfo flags =>
    s!"bootloader did not provide memory information (flags = {Text.hex flags.toNat})"

/-- The outline of the error. -/
def outline (e : BootInfoError) : String :=
  match e with
  | badMagic value | missingMemoryInfo value => Text.applied e.kind [toString value.toNat]
  | nullInfo => e.kind

end BootInfoError

/-! ## Validation -/

/-- What the boot loader passed on, as far as it means anything. -/
structure BootInfo where
  information : Information
  memoryMap : MemoryMap
  /-- The bytes of the boot loader's name. -/
  nameBytes : Option (List Byte)

namespace BootInfo

/-- Validate what the boot loader passed on, with the map and the name found already. -/
def validate (magic : Word) (i : Information) (map : MemoryMap) (name : Option (List Byte)) :
    Except BootInfoError BootInfo :=
  if magic ≠ loaderMagic then .error (.badMagic magic)
  else if !InfoFlags.memory.isSet i.flags && !InfoFlags.memoryMap.isSet i.flags then
    .error (.missingMemoryInfo i.flags)
  else .ok {
    information := i
    memoryMap := if InfoFlags.memoryMap.isSet i.flags then map else .empty
    nameBytes := if InfoFlags.loaderName.isSet i.flags then name else none }

/-- The map that the structure announces. -/
def mapIn (m : Memory) (i : Information) : MemoryMap :=
  if InfoFlags.memoryMap.isSet i.flags ∧ i.mapStart ≠ .zero then
    ⟨m.window i.mapStart.toNat i.mapLength.toNat⟩
  else .empty

/-- The name that the structure announces: it ends before the first zero. -/
def nameIn (m : Memory) (i : Information) : Option (List Byte) :=
  if InfoFlags.loaderName.isSet i.flags ∧ i.loaderName ≠ .zero then
    some (m.untilZero i.loaderName.toNat (0x100000000 - i.loaderName.toNat))
  else none

/-- Read what the boot loader left in memory. -/
def read (magic : Word) (m : Memory) (start : PhysAddr) : Except BootInfoError BootInfo :=
  if magic ≠ loaderMagic then .error (.badMagic magic)
  else if start = .zero then .error .nullInfo
  else
    let i := Information.read m start
    validate magic i (mapIn m i) (nameIn m i)

/-! ## Questions -/

/-- The name of the boot loader, if it has one and that is a text. -/
def loaderName (b : BootInfo) : Option String :=
  b.nameBytes.bind fun bytes =>
    String.fromUTF8? ⟨(bytes.map UInt8.ofBitVec).toArray⟩

/-- Whether the addresses from `start` up to `stop` lie in one free region; unknown if there is no
map. An empty range stands for its first address. -/
def rangeIsAvailable (b : BootInfo) (start stop : Word) : Option Bool :=
  if b.memoryMap.regions.isEmpty then none
  else
    let first := start.setWidth 64
    let last : DoubleWord := BitVec.ofNat 64 (max stop.toNat (saturatingAdd start 1).toNat - 1)
    some ((b.memoryMap.availableContaining first).any (·.contains last))

/-! ## The report -/

/-- A record of the report. -/
def record (level : Log.Level) (message : String) : Log.Record :=
  ⟨level, Log.loaderInformation, "multiboot: " ++ message⟩

/-- The records about the flags, the sizes and the map. -/
def openingRecords (b : BootInfo) : List Log.Record :=
  let name := b.loaderName.getD "<unknown>"
  let flags := record .info s!"flags={Text.hex b.information.flags.toNat} loader={name}"
  let sizes := b.information.basicMemory.toList.map fun m =>
    record .info s!"lower={m.1.toNat} KiB upper={m.2.toNat} KiB"
  let map := b.memoryMap.regions.map fun r => record .debug s!"mmap {r.text}"
  flags :: sizes ++ map

/-- The record about free memory; a fault if its size does not fit a double word. -/
def closingRecords (b : BootInfo) : Except Fault (List Log.Record) :=
  if b.memoryMap.regions.isEmpty then .ok []
  else b.memoryMap.availableBytes.map fun n =>
    [record .info s!"{n.toNat / 1024} KiB available"]

/-- The record about free memory, with the exact number of bytes behind it. There is none if the boot
loader told of no memory. -/
def totalRecords (b : BootInfo) : List Log.Record :=
  if b.memoryMap.regions = [] then []
  else [record .info s!"{b.memoryMap.availableTotal / 1024} KiB available"]

/-- Report what the boot loader passed on. The records that precede a fault are reported. -/
def report (b : BootInfo) : Except Fault Unit × List Log.Record :=
  match b.closingRecords with
  | .ok closing => (.ok (), b.openingRecords ++ closing)
  | .error f => (.error f, b.openingRecords)

end BootInfo

end ProtectedBoot.Multiboot
