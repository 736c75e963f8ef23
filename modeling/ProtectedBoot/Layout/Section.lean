import ProtectedBoot.Address
import ProtectedBoot.Platform

/-!
# Sections of the image

The image is a fixed sequence of seven sections: the boot loader's header, the entry code, the
descriptor table, and then code, constants, data and zeroed memory.
-/

namespace ProtectedBoot.Layout

/-- What a section holds. -/
inductive SectionKind where
  | header
  | boot
  | descriptorTable
  | text
  | rodata
  | data
  | bss
deriving DecidableEq

namespace SectionKind

/-- The sections in the order of the image. -/
def all : Vector SectionKind 7 := #v[header, boot, descriptorTable, text, rodata, data, bss]

/-- The name of the section. -/
def name : SectionKind → String
  | header => ".multiboot"
  | boot => ".boot"
  | descriptorTable => ".gdt"
  | text => ".text"
  | rodata => ".rodata"
  | data => ".data"
  | bss => ".bss"

/-- The outline of the kind. -/
def outline : SectionKind → String
  | header => "MultibootHeader"
  | boot => "Boot"
  | descriptorTable => "DescriptorTables"
  | text => "Text"
  | rodata => "Rodata"
  | data => "Data"
  | bss => "Bss"

/-- What the start of the section is a multiple of. -/
def alignment : SectionKind → Word
  | descriptorTable => Platform.tableAlignment
  | _ => Platform.pageBytes

/-- The position of the section in the image. -/
def index : SectionKind → Fin 7
  | header => 0
  | boot => 1
  | descriptorTable => 2
  | text => 3
  | rodata => 4
  | data => 5
  | bss => 6

end SectionKind

/-- A section at an address. -/
structure PlacedSection where
  kind : SectionKind
  start : PhysAddr
  size : Word
deriving DecidableEq

namespace PlacedSection

/-- The address behind the section, if it is one. -/
def end? (s : PlacedSection) : Option PhysAddr := s.start.add? s.size

/-- The start of the section in the upper mapping, if it is an address. -/
def virtStart? (s : PlacedSection) (virtOffset : Word) : Option VirtAddr :=
  (add? s.start.bits virtOffset).map Address.mk

end PlacedSection

end ProtectedBoot.Layout
