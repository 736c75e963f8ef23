import ProtectedBoot.Segment.Descriptor
import ProtectedBoot.Segment.Selector
import ProtectedBoot.Text.Numeral

/-!
# The global descriptor table

The boot code uses one of two tables: the null descriptor with kernel code and kernel data, or the
same with user code and user data behind them. A table may be handed to the processor only once it
is **bound**: every selector it provides passes the processor's privilege checks, and the table lies
at an address the processor can read it from. Binding is the only way to make a `BoundTable`, and
the two facts stay with it.
-/

namespace ProtectedBoot

/-! ## Errors -/

/-- Why a table cannot be used. -/
inductive TableError where
  /-- The table does not fit the buffer it is written to. -/
  | bufferTooSmall (needed available : Nat)
  /-- The table does not start at a multiple of eight. -/
  | misaligned (base : Word)
  /-- The table reaches past the end of the address space. -/
  | addressOverflow (base : Word)
  /-- The processor would refuse a selector. -/
  | accessDenied (selector : HalfWord)
deriving DecidableEq

namespace TableError

/-- The name of the cause. -/
def kind : TableError → String
  | bufferTooSmall .. => "BufferTooSmall"
  | misaligned .. => "Misaligned"
  | addressOverflow .. => "AddressOverflow"
  | accessDenied .. => "AccessDenied"

/-- The sentence that reports the error. -/
def message : TableError → String
  | bufferTooSmall needed available =>
    s!"descriptor table needs {needed} bytes, buffer holds {available}"
  | misaligned base =>
    s!"descriptor table base {Text.hexWide 8 base.toNat} is not 8-byte aligned"
  | addressOverflow base => s!"descriptor table at {Text.hexWide 8 base.toNat} runs past 4 GiB"
  | accessDenied selector =>
    s!"selector {Text.hexWide 2 selector.toNat} cannot be loaded at its privilege level"

/-- The outline of the error. -/
def outline (e : TableError) : String :=
  match e with
  | bufferTooSmall needed available =>
    Text.named e.kind [("needed", toString needed), ("available", toString available)]
  | misaligned base | addressOverflow base => Text.named e.kind [("base", toString base.toNat)]
  | accessDenied selector => Text.named e.kind [("selector", toString selector.toNat)]

end TableError

/-! ## The pointer -/

/-- What the processor is told about a table: it reads `limit + 1` bytes from `base`. -/
structure TablePointer where
  limit : HalfWord
  base : Word
deriving DecidableEq

namespace TablePointer

/-- The six bytes that the processor takes the pointer from. -/
def toBytes (p : TablePointer) : List Byte := littleEndian 2 p.limit ++ littleEndian 4 p.base

/-- The outline of the pointer. -/
def outline (p : TablePointer) : String :=
  Text.named "DescriptorTablePointer"
    [("limit", toString p.limit.toNat), ("base", Text.hexWide 8 p.base.toNat)]

end TablePointer

/-! ## The table -/

/-- The two tables of the boot code. -/
inductive TableShape where
  | kernelOnly
  | withUser
deriving DecidableEq

/-- The number of descriptors in a table. -/
def TableShape.entries : TableShape → Nat
  | kernelOnly => 3
  | withUser => 5

/-- A global descriptor table. -/
structure GlobalTable (shape : TableShape) where
  descriptors : Vector Descriptor shape.entries

/-- The selector of the kernel's code. -/
def kernelCode : Selector .code := ⟨0x08⟩

/-- The selector of the kernel's data. -/
def kernelData : Selector .data := ⟨0x10⟩

/-- The selector of user code. -/
def userCode : Selector .code := ⟨0x1B⟩

/-- The selector of user data. -/
def userData : Selector .data := ⟨0x23⟩

/-- The four selectors name the descriptors behind the null descriptor in their order, and each asks
for the level that it is loaded at. -/
theorem selectors_ofIndex :
    Selector.ofIndex 1 .ring0 = .ok kernelCode ∧ Selector.ofIndex 2 .ring0 = .ok kernelData ∧
      Selector.ofIndex 3 .ring3 = .ok userCode ∧ Selector.ofIndex 4 .ring3 = .ok userData :=
  ⟨rfl, rfl, rfl, rfl⟩

/-- The selectors that a table provides. -/
structure Selectors where
  kernelCode : Selector .code
  kernelData : Selector .data
  userCode : Option (Selector .code)
  userData : Option (Selector .data)
deriving DecidableEq

namespace GlobalTable

variable {shape : TableShape}

/-- The flat table: every segment covers the whole address space. -/
def flat : (shape : TableShape) → GlobalTable shape
  | .kernelOnly => ⟨#v[.null, .flatCode .ring0, .flatData .ring0]⟩
  | .withUser =>
    ⟨#v[.null, .flatCode .ring0, .flatData .ring0, .flatCode .ring3, .flatData .ring3]⟩

/-- Whether the table provides user segments. -/
def hasUserSegments (_ : GlobalTable shape) : Bool := shape == .withUser

/-- The number of bytes of the table in memory. -/
def byteCount (_ : GlobalTable shape) : Nat := 8 * shape.entries

/-- The last byte of the table, as the processor is told it. -/
def limit (t : GlobalTable shape) : HalfWord := BitVec.ofNat 16 (t.byteCount - 1)

/-- The table with one descriptor overwritten. -/
def overwrite (t : GlobalTable shape) (i : Nat) (d : Descriptor) : GlobalTable shape :=
  ⟨t.descriptors.setIfInBounds i d⟩

/-- The selectors that the table provides. -/
def selectors (t : GlobalTable shape) : Selectors where
  kernelCode := ProtectedBoot.kernelCode
  kernelData := ProtectedBoot.kernelData
  userCode := if t.hasUserSegments then some ProtectedBoot.userCode else none
  userData := if t.hasUserSegments then some ProtectedBoot.userData else none

/-! ## The processor's checks -/

/-- The descriptor that a selector names; the null descriptor cannot be named. -/
def descriptor? {c : SegmentClass} (t : GlobalTable shape) (s : Selector c) : Option Descriptor :=
  if s.table = .gdt ∧ s.index ≠ 0 then t.descriptors[s.index]? else none

/-- Whether control may pass into the code segment of `s` while `running` is the level. -/
def loadsCode (t : GlobalTable shape) (s : Selector .code) (running : Ring) : Bool :=
  match t.descriptor? s with
  | none => false
  | some d =>
    let a := d.access
    AccessByte.present.isSet a && AccessByte.ordinary.isSet a && AccessByte.executable.isSet a &&
      if AccessByte.directionConforming.isSet a then (AccessByte.ringOf a).permitsConforming running
      else (AccessByte.ringOf a).permitsCode running

/-- Whether every data segment register, the stack's included, may take `s` while `running` is the
level. -/
def loadsData (t : GlobalTable shape) (s : Selector .data) (running : Ring) : Bool :=
  match t.descriptor? s with
  | none => false
  | some d =>
    let a := d.access
    AccessByte.present.isSet a && AccessByte.ordinary.isSet a && !AccessByte.executable.isSet a &&
      AccessByte.readableWritable.isSet a && (AccessByte.ringOf a).permitsData running s.ring &&
      (AccessByte.ringOf a).permitsStack running s.ring

/-- The verdict on each selector of the table: kernel selectors are loaded at ring 0, user selectors
at ring 3. -/
def verdicts (t : GlobalTable shape) : List (HalfWord × Bool) :=
  let kernel := [
    (kernelCode.bits, t.loadsCode kernelCode .ring0),
    (kernelData.bits, t.loadsData kernelData .ring0)]
  let user := [
    (userCode.bits, t.loadsCode userCode .ring3),
    (userData.bits, t.loadsData userData .ring3)]
  if t.hasUserSegments then kernel ++ user else kernel

/-- Check that the processor accepts every selector of the table; the error names the first that it
would refuse. -/
def checkAccess (t : GlobalTable shape) : Except TableError Unit :=
  match t.verdicts.find? fun v => !v.2 with
  | some v => .error (.accessDenied v.1)
  | none => .ok ()

/-! ## The table in memory -/

/-- The pointer to the table when it lies at `base`. -/
def pointerAt (t : GlobalTable shape) (base : Word) : Except TableError TablePointer :=
  if base.toNat % 8 ≠ 0 then .error (.misaligned base)
  else if (add? base (t.limit.setWidth 32)).isNone then .error (.addressOverflow base)
  else .ok ⟨t.limit, base⟩

/-- The table in memory order. -/
def toBytes (t : GlobalTable shape) : List Byte := t.descriptors.toList.flatMap Descriptor.toBytes

/-- Write the table over the start of a buffer. The answer is the number of bytes written; a buffer
that is too small is left alone. -/
def serialize (t : GlobalTable shape) (buffer : List Byte) : Except TableError Nat × List Byte :=
  if t.byteCount ≤ buffer.length then
    (.ok t.byteCount, t.toBytes ++ buffer.drop t.byteCount)
  else (.error (.bufferTooSmall t.byteCount buffer.length), buffer)

end GlobalTable

/-! ## Bound tables -/

/-- A table at an address, fit to be handed to the processor. -/
structure BoundTable (shape : TableShape) where
  table : GlobalTable shape
  pointer : TablePointer
  accessible : table.checkAccess = .ok ()
  located : table.pointerAt pointer.base = .ok pointer

/-- Bind a table to the address it lies at. -/
def GlobalTable.bindAt {shape : TableShape} (t : GlobalTable shape) (base : Word) :
    Except TableError (BoundTable shape) :=
  match ha : t.checkAccess with
  | .error e => .error e
  | .ok () => match hp : t.pointerAt base with
    | .error e => .error e
    | .ok p => .ok ⟨t, p, ha, by
        have hb : p.base = base := by
          unfold GlobalTable.pointerAt at hp
          split at hp
          · cases hp
          · split at hp <;> cases hp
            rfl
        rw [hb]; exact hp⟩

end ProtectedBoot
