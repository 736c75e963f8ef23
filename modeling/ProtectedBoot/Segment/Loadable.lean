import ProtectedBoot.Segment.GlobalTable

/-!
# Descriptors that the processor loads

What the processor demands of a descriptor before it loads a segment register with a selector for it,
read off the bits of the descriptor:

| bit    | meaning                            |
|--------|------------------------------------|
| 41     | data may be written                |
| 42     | code is conforming                 |
| 43     | the segment holds code             |
| 44     | the segment is one of code or data |
| 45, 46 | the privilege level                |
| 47     | the descriptor is in use           |

`GlobalTable.Loadable` says that a table meets the demands for every selector the boot code uses. The
bit that the processor itself writes, number 40, is not among them, and neither are base, limit and
flags. `BoundTable.Names` says that a selector leads the processor to a descriptor of the table that it
has been told of, which takes a pointer that covers the descriptor.
-/

namespace ProtectedBoot

namespace Descriptor

/-- The privilege level, as a number. -/
def level (d : Descriptor) : Nat := (d.bits.extractLsb' 45 2).toNat

/-- Control may pass into the segment while `running` is the level: the segment holds code, and it is
of that level, or conforming and not less privileged. -/
structure LoadsAsCode (d : Descriptor) (running : Nat) : Prop where
  present : d.bits.getLsbD 47 = true
  ordinary : d.bits.getLsbD 44 = true
  executable : d.bits.getLsbD 43 = true
  entered : d.level = running ∨ (d.bits.getLsbD 42 = true ∧ d.level ≤ running)

/-- Data segment registers and that of the stack may take the segment while `running` is the level:
the segment holds data that may be written, and it is of that level. -/
structure LoadsAsData (d : Descriptor) (running : Nat) : Prop where
  present : d.bits.getLsbD 47 = true
  ordinary : d.bits.getLsbD 44 = true
  not_executable : d.bits.getLsbD 43 = false
  writable : d.bits.getLsbD 41 = true
  level_eq : d.level = running

/-- The descriptor is in use, for code. -/
structure IsCode (d : Descriptor) : Prop where
  present : d.bits.getLsbD 47 = true
  ordinary : d.bits.getLsbD 44 = true
  executable : d.bits.getLsbD 43 = true

/-- The descriptor is in use, for data that may be written. -/
structure IsWritableData (d : Descriptor) : Prop where
  present : d.bits.getLsbD 47 = true
  ordinary : d.bits.getLsbD 44 = true
  not_executable : d.bits.getLsbD 43 = false
  writable : d.bits.getLsbD 41 = true

/-- Descriptors that differ only in parts that loading does not look at: the accessed bit, the base,
the limit and the flags. -/
def AlikeForLoading (d e : Descriptor) : Prop := d.bits.extractLsb' 41 7 = e.bits.extractLsb' 41 7

instance (d e : Descriptor) : Decidable (AlikeForLoading d e) := inferInstanceAs (Decidable (_ = _))

end Descriptor

namespace GlobalTable

variable {shape : TableShape}

/-- Descriptor `i`, if the table has one, is as demanded. -/
def Provides (t : GlobalTable shape) (i : Nat) (Demand : Descriptor → Prop) : Prop :=
  ∀ d ∈ t.descriptors[i]?, Demand d

/-- The kernel's code: it runs at ring 0. -/
def HasKernelCode (t : GlobalTable shape) : Prop := t.Provides 1 fun d => d.IsCode ∧ d.level = 0

/-- The kernel's data. -/
def HasKernelData (t : GlobalTable shape) : Prop :=
  t.Provides 2 fun d => d.IsWritableData ∧ d.level = 0

/-- User code, if there are user segments: it runs at ring 3, or wherever it is entered from. -/
def HasUserCode (t : GlobalTable shape) : Prop :=
  t.Provides 3 fun d => d.IsCode ∧ (d.bits.getLsbD 42 = true ∨ d.level = 3)

/-- User data, if there are user segments. -/
def HasUserData (t : GlobalTable shape) : Prop := t.Provides 4 fun d => d.IsWritableData ∧ d.level = 3

/-- The table has loadable segments wherever the boot code's selectors point: the kernel's for ring 0,
and those of users, if there are any, for ring 3. -/
structure Loadable (t : GlobalTable shape) : Prop where
  kernelCode : t.HasKernelCode
  kernelData : t.HasKernelData
  userCode : t.HasUserCode
  userData : t.HasUserData

/-- A selector of the boot code points to no loadable segment, and those before it do. -/
inductive FirstRefused (t : GlobalTable shape) : HalfWord → Prop where
  | kernelCode : ¬ t.HasKernelCode → FirstRefused t kernelCode.bits
  | kernelData : t.HasKernelCode → ¬ t.HasKernelData → FirstRefused t kernelData.bits
  | userCode : t.HasKernelCode → t.HasKernelData → ¬ t.HasUserCode → FirstRefused t userCode.bits
  | userData : t.HasKernelCode → t.HasKernelData → t.HasUserCode → ¬ t.HasUserData →
    FirstRefused t userData.bits

/-- The tables agree in all that loading looks at, the descriptor in front of the others left out. -/
def AlikeForLoading (t u : GlobalTable shape) : Prop :=
  ∀ i d e, 0 < i → t.descriptors[i]? = some d → u.descriptors[i]? = some e → d.AlikeForLoading e

end GlobalTable

/-- The pointer covers exactly a table of `entries` descriptors, which lies in the address space. -/
structure TablePointer.Covers (p : TablePointer) (entries : Nat) : Prop where
  limit_eq : p.limit.toNat = 8 * entries - 1
  base_aligned : 8 ∣ p.base.toNat
  reach : p.base.toNat + p.limit.toNat < 0x100000000

/-- The selector names a descriptor of the table, and all of its bytes are covered by the pointer. -/
structure BoundTable.Names {shape : TableShape} {c : SegmentClass} (b : BoundTable shape)
    (s : Selector c) (d : Descriptor) : Prop where
  global : s.table = .gdt
  not_null : s.index ≠ 0
  descriptor : b.table.descriptors[s.index]? = some d
  covered : 8 * s.index + 7 ≤ b.pointer.limit.toNat

end ProtectedBoot
