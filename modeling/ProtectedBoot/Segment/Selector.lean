import ProtectedBoot.Bits.Format
import ProtectedBoot.Privilege

/-!
# Segment selectors

A selector is what a segment register is loaded with: the index of a descriptor, the table that
holds it, and the privilege level that is asked for. Selectors for code and for data are kept apart
by their type, because they go into different registers.
-/

namespace ProtectedBoot

/-- The two tables that hold descriptors. -/
inductive DescriptorTable where
  | gdt
  | ldt
deriving DecidableEq

namespace DescriptorTable

/-- The table that a number names: zero the global one, everything else the local one. -/
def ofCode (n : Nat) : DescriptorTable := if n = 0 then .gdt else .ldt

/-- The number of the table in a selector. -/
def code : DescriptorTable → Nat
  | .gdt => 0
  | .ldt => 1

/-- The name of the table. -/
def name : DescriptorTable → String
  | .gdt => "Gdt"
  | .ldt => "Ldt"

end DescriptorTable

/-- What a segment is used for. -/
inductive SegmentClass where
  | code
  | data
deriving DecidableEq

/-! ## The packed selector -/

namespace SelectorBits

/-- The requested privilege level. -/
def ring : Field 16 2 := { offset := 0 }

/-- The table indicator. -/
def table : Field 16 1 := { offset := 2 }

/-- The index of the descriptor. -/
def index : Field 16 13 := { offset := 3 }

/-- The parts of a selector. -/
def format : Format 16 where
  name := "SegmentSelectorRaw"
  initial := 0
  parts := [
    .coded "rpl" ring (fun n => (Ring.ofBits n).level) (fun n => (Ring.ofBits n).name),
    .coded "ti" table (fun n => (DescriptorTable.ofCode n).code)
      (fun n => (DescriptorTable.ofCode n).name),
    .number "index" index]

/-- Pack a selector; a fault if the index is wider than its field. -/
def pack (i : Nat) (t : DescriptorTable) (r : Ring) : Except Fault HalfWord := do
  let indexed ← index.put 0 i
  let tabled ← table.put indexed t.code
  ring.put tabled r.level

end SelectorBits

/-! ## Typed selectors -/

/-- A selector for a segment of class `c`. -/
structure Selector (c : SegmentClass) where
  bits : HalfWord
deriving DecidableEq

namespace Selector

variable {c : SegmentClass}

/-- The selector of the global descriptor at `i`; a fault if there can be no such descriptor. -/
def ofIndex (i : Nat) (r : Ring) : Except Fault (Selector c) :=
  (SelectorBits.pack i .gdt r).map Selector.mk

/-- The index of the descriptor. -/
def index (s : Selector c) : Nat := (SelectorBits.index.get s.bits).toNat

/-- The table that holds the descriptor. -/
def table (s : Selector c) : DescriptorTable :=
  .ofCode (SelectorBits.table.get s.bits).toNat

/-- The privilege level that the selector asks for. -/
def ring (s : Selector c) : Ring := .ofBits (SelectorBits.ring.get s.bits).toNat

end Selector

end ProtectedBoot
