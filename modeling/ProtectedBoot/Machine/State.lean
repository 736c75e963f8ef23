import ProtectedBoot.Address
import ProtectedBoot.Memory
import ProtectedBoot.Segment.GlobalTable

/-!
# The machine

As much of a 32-bit machine as the boot code touches: three control registers, the register that
points to the descriptor table, six segment registers, and memory. Privileged instructions leave a
trace. Some bits of a control register may be **fixed**: writing the register does not change them.
-/

namespace ProtectedBoot.Machine

/-- The control registers. -/
inductive ControlRegister where
  | cr0
  | cr3
  | cr4
deriving DecidableEq

/-- The name of a control register. -/
def ControlRegister.name : ControlRegister → String
  | cr0 => "cr0"
  | cr3 => "cr3"
  | cr4 => "cr4"

/-- The segment registers. -/
inductive SegmentRegister where
  | es
  | cs
  | ss
  | ds
  | fs
  | gs
deriving DecidableEq

/-- The segment registers in the order in which the processor numbers them. -/
def SegmentRegister.all : List SegmentRegister := [es, cs, ss, ds, fs, gs]

/-- The name of a segment register. -/
def SegmentRegister.name : SegmentRegister → String
  | es => "es"
  | cs => "cs"
  | ss => "ss"
  | ds => "ds"
  | fs => "fs"
  | gs => "gs"

/-- A privileged instruction with its operands. -/
inductive Instruction where
  /-- Point to the descriptor table. -/
  | loadTable (pointer : TablePointer)
  /-- Read a control register. -/
  | readControl (r : ControlRegister) (value : Word)
  /-- Write a control register. -/
  | writeControl (r : ControlRegister) (value : Word)
  /-- Return into another code segment. -/
  | farReturn (selector : HalfWord)
  /-- Load a segment register. -/
  | loadSegment (r : SegmentRegister) (selector : HalfWord)
  /-- Take no more interrupts. -/
  | disableInterrupts
  /-- Wait for an interrupt. -/
  | wait
deriving DecidableEq

/-- The state of the machine. -/
structure State where
  control : ControlRegister → Word
  /-- The bits of a control register that keep their value. -/
  fixed : ControlRegister → Word
  table : Option TablePointer
  segment : SegmentRegister → Option HalfWord
  memory : Memory
  /-- The number of interrupts that will still arrive, one for each wait. -/
  wakeups : Nat
  halted : Bool
  trace : List Instruction

namespace State

/-- The state at the start: the values of the control registers, the fixed bits of `CR0` and `CR4`,
memory, and the interrupts to come. -/
def start (cr0 cr3 cr4 fixed0 fixed4 : Word) (memory : Memory) (wakeups : Nat) : State where
  control
    | .cr0 => cr0
    | .cr3 => cr3
    | .cr4 => cr4
  fixed
    | .cr0 => fixed0
    | .cr3 => 0
    | .cr4 => fixed4
  table := none
  segment := fun _ => none
  memory
  wakeups
  halted := false
  trace := []

/-- The state after an instruction was traced. -/
def traced (s : State) (i : Instruction) : State := { s with trace := s.trace ++ [i] }

/-- No bit of a control register is fixed: what is written is what will be read. -/
def Exact (s : State) : Prop := ∀ r, s.fixed r = 0

/-- What a control register holds after a value was written to it. -/
def accepted (s : State) (r : ControlRegister) (value : Word) : Word :=
  (s.control r &&& s.fixed r) ||| (value &&& ~~~s.fixed r)

theorem accepted_of_exact {s : State} (h : s.Exact) (r : ControlRegister) (value : Word) :
    s.accepted r value = value := by
  have masked : s.control r &&& 0#32 = 0#32 := BitVec.and_zero
  have kept : value &&& ~~~0#32 = value := by rw [BitVec.not_zero, BitVec.and_allOnes]
  rw [accepted, h r]
  exact (congr (congrArg HOr.hOr masked) kept).trans BitVec.zero_or

end State

/-! ## Instructions -/

/-- Point to the descriptor table. -/
def loadTable (pointer : TablePointer) : StateM State Unit :=
  modify fun s => { s.traced (.loadTable pointer) with table := some pointer }

/-- Read a control register. -/
def readControl (r : ControlRegister) : StateM State Word :=
  modifyGet fun s => (s.control r, s.traced (.readControl r (s.control r)))

/-- Write a control register; its fixed bits stay. -/
def writeControl (r : ControlRegister) (value : Word) : StateM State Unit :=
  modify fun s =>
    { s.traced (.writeControl r value) with
      control := fun q => if q = r then s.accepted r value else s.control q }

/-- Load a segment register, whichever instruction does it. -/
def setSegment (i : Instruction) (r : SegmentRegister) (selector : HalfWord) :
    StateM State Unit :=
  modify fun s =>
    { s.traced i with segment := fun q => if q = r then some selector else s.segment q }

/-- Return into another code segment. -/
def farReturn (selector : HalfWord) : StateM State Unit :=
  setSegment (.farReturn selector) .cs selector

/-- Load a data segment register. -/
def loadSegment (r : SegmentRegister) (selector : HalfWord) : StateM State Unit :=
  setSegment (.loadSegment r selector) r selector

/-- Read a byte of memory. -/
def readByte (a : PhysAddr) : StateM State Byte :=
  modifyGet fun s => (s.memory.byte a.toNat, s)

/-- Write a byte of memory. -/
def writeByte (a : PhysAddr) (v : Byte) : StateM State Unit :=
  modify fun s => { s with memory := s.memory.write a.toNat v }

/-- Take no interrupts and wait for one, again and again. Each of those that arrive anyway ends one
wait; the wait after the last of them never ends. -/
def haltForever : StateM State Unit :=
  modify fun s =>
    { s with
      wakeups := 0
      halted := true
      trace := s.trace ++
        (List.replicate (s.wakeups + 1) [Instruction.disableInterrupts, .wait]).flatten }

end ProtectedBoot.Machine
