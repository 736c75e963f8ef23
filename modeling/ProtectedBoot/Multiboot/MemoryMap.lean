import ProtectedBoot.Bytes
import ProtectedBoot.Text.Numeral
import ProtectedBoot.Text.Outline

/-!
# The boot loader's memory map

The map is a byte string of records. A record starts with a word that says how many bytes follow it;
the first twenty of those are the base, the length and the kind of a region, and a reader that knows
no more skips the rest:

| offset | contents |
|--------|----------|
| 0      | size     |
| 4      | base     |
| 12     | length   |
| 20     | kind     |

The map ends where its bytes do, or at the first record that is cut off or too small. Since every
record takes at least 24 bytes, reading it ends (`next_progress`).
-/

namespace ProtectedBoot.Multiboot

/-! ## Regions -/

/-- What a region of memory is good for. -/
inductive MemoryKind where
  /-- Memory for everyone. -/
  | available
  /-- Firmware tables, free once they were read. -/
  | reclaimable
  /-- Memory of the firmware that outlives a suspension. -/
  | preserved
  /-- Memory that does not work. -/
  | defective
  /-- Everything else, with its code. -/
  | reserved (code : Word)
deriving DecidableEq

namespace MemoryKind

/-- The kind with a given code. -/
def ofCode (code : Word) : MemoryKind :=
  match code.toNat with
  | 1 => available
  | 3 => reclaimable
  | 4 => preserved
  | 5 => defective
  | _ => reserved code

/-- The code of the kind. -/
def code : MemoryKind → Word
  | available => 1
  | reclaimable => 3
  | preserved => 4
  | defective => 5
  | reserved code => code

/-- The outline of the kind. -/
def outline : MemoryKind → String
  | available => "Available"
  | reclaimable => "AcpiReclaimable"
  | preserved => "AcpiNvs"
  | defective => "BadRam"
  | reserved code => Text.applied "Reserved" [toString code.toNat]

theorem code_ofCode (c : Word) : (ofCode c).code = c := by
  unfold ofCode
  split <;> first | rfl | (apply BitVec.eq_of_toNat_eq; simp_all [code])

end MemoryKind

/-- A region of memory. -/
structure Region where
  base : DoubleWord
  length : DoubleWord
  kind : MemoryKind
deriving DecidableEq

namespace Region

/-- The address behind the region, or the last address there is if the region reaches that far. -/
def limit (r : Region) : DoubleWord := saturatingAdd r.base r.length

/-- Whether an address lies in the region. -/
def contains (r : Region) (a : DoubleWord) : Bool :=
  r.base.toNat ≤ a.toNat ∧ a.toNat < r.limit.toNat

/-- Whether the region is free. -/
def isAvailable (r : Region) : Bool := r.kind = .available

/-- The number of the address behind the region, which may be larger than any address. -/
def stop (r : Region) : Nat := r.base.toNat + r.length.toNat

/-- The region is free, and the addresses from `start` up to `stop` lie in it. -/
def Spans (r : Region) (start stop : Word) : Prop :=
  r.kind = .available ∧ r.base.toNat ≤ start.toNat ∧ stop.toNat ≤ r.stop

/-- The region is free, and the addresses from `start` up to `stop` begin in it and go on behind
it. -/
def BreaksOff (r : Region) (start stop : Word) : Prop :=
  r.kind = .available ∧ r.base.toNat ≤ start.toNat ∧ start.toNat < r.stop ∧ r.stop < stop.toNat

/-- No address lies in both regions. -/
def Apart (q r : Region) : Prop := q.stop ≤ r.base.toNat ∨ r.stop ≤ q.base.toNat

/-- The region as a report shows it. -/
def text (r : Region) : String :=
  Text.hexWide 8 r.base.toNat ++ ".." ++ Text.hexWide 8 r.limit.toNat ++
    s!" ({r.length.toNat / 1024} KiB, {r.kind.outline})"

end Region

/-! ## The map -/

/-- The bytes of a record behind its size. -/
def recordPayload : Nat := 20

/-- A memory map. -/
structure MemoryMap where
  bytes : Bytes

namespace MemoryMap

/-- The map without records. -/
def empty : MemoryMap := ⟨.empty⟩

/-- The region in a record. -/
def region? (m : MemoryMap) (offset : Nat) : Option Region := do
  return {
    base := ← m.bytes.doubleWord? (offset + 4)
    length := ← m.bytes.doubleWord? (offset + 12)
    kind := .ofCode (← m.bytes.word? (offset + 20)) }

/-- Read the record at an offset: its region if it has one, and the offset to go on from. A record
that is cut off leaves the offset where it is, one that is too small moves it to the end. -/
def next (m : MemoryMap) (offset : Nat) : Option Region × Nat :=
  match m.bytes.word? offset with
  | none => (none, offset)
  | some size =>
    if size.toNat < recordPayload then (none, m.bytes.size)
    else match m.region? offset with
      | none => (none, offset)
      | some r => (some r, offset + 4 + size.toNat)

/-- **Reading makes progress**: a record that yields a region lies in the map with its first 24
bytes, and the offset moves at least that far. -/
theorem next_progress {m : MemoryMap} {offset behind : Nat} {r : Region}
    (h : m.next offset = (some r, behind)) :
    offset + 24 ≤ m.bytes.size ∧ offset + 24 ≤ behind := by
  unfold next at h
  split at h
  · cases h
  · split at h
    · cases h
    · rename_i size _ hsize
      simp only [recordPayload] at hsize
      cases hr : m.region? offset with
      | none => rw [hr] at h; cases h
      | some q =>
        rw [hr] at h
        cases h
        refine ⟨?_, by omega⟩
        cases hk : m.bytes.word? (offset + 20) with
        | none => simp [region?, hk, Option.bind_eq_bind] at hr
        | some _ => simpa using m.bytes.word?_isSome_iff.1 (Option.isSome_of_eq_some hk)

/-- The regions in the map, from an offset on. -/
def regionsFrom (m : MemoryMap) (offset : Nat) : List Region :=
  match _h : m.next offset with
  | (none, _) => []
  | (some r, behind) => r :: m.regionsFrom behind
termination_by m.bytes.size - offset
decreasing_by
  have := next_progress _h
  omega

/-- The regions in the map. -/
def regions (m : MemoryMap) : List Region := m.regionsFrom 0

/-- The free regions in the map. -/
def available (m : MemoryMap) : List Region := m.regions.filter Region.isAvailable

/-- The number of free bytes; a fault if the sum does not fit a double word. -/
def availableBytes (m : MemoryMap) : Except Fault DoubleWord :=
  (m.available.map Region.length).foldlM checkedAdd 0

/-- The number of free bytes over the naturals, which may be larger than any double word. -/
def availableTotal (m : MemoryMap) : Nat :=
  m.available.foldr (fun r total => r.length.toNat + total) 0

/-- The first free region that an address lies in. -/
def availableContaining (m : MemoryMap) (a : DoubleWord) : Option Region :=
  m.regions.find? fun r => r.isAvailable && r.contains a

end MemoryMap

end ProtectedBoot.Multiboot
