import ProtectedBoot.Boot.Course
import ProtectedBoot.Machine.Processor
import ProtectedBoot.Machine.TwoLevel

/-!
# Control registers along the calls

A call of the boot code writes one control register at most (`writes`), and every other register keeps
its value (`control_perform`). So does a register along a list of calls none of which writes it
(`control_after`), and paging stays off, or on, as long as no call turns it on
(`translates_after_iff`).

What the three calls of the paging stage leave in their registers is said for a machine on which
writes are exact; no call changes that (`exact_after`).
-/

namespace ProtectedBoot

/-! ## Runs -/

namespace Boot.Processor

variable {σ β : Type}

theorem after_append_calls (cpu : Processor σ) (l r : List Call) (m : σ) :
    cpu.after (l ++ r) m = cpu.after r (cpu.after l m) :=
  List.foldl_append

/-- What each call of a list keeps, the list keeps. -/
theorem after_eq_of_perform_eq {cpu : Processor σ} {f : σ → β} {calls : List Call}
    (step : ∀ c ∈ calls, ∀ m, f (cpu.perform c m).2 = f m) (m : σ) :
    f (cpu.after calls m) = f m := by
  induction calls generalizing m with
  | nil => rfl
  | cons c rest ih =>
    show f (cpu.after rest (cpu.perform c m).2) = f m
    rw [ih (fun c mem => step c (List.mem_cons_of_mem _ mem)), step c List.mem_cons_self]

end Boot.Processor

namespace Machine

open Boot (Call)

variable {m : State} {c : Call} {calls : List Call} {r : ControlRegister} {a : PhysAddr}

/-! ## The directory -/

/-- **An aligned directory goes into the register as it is**: the bits below the page number are
zero. -/
theorem ofDirectory_of_aligned (aligned : a.isAligned .kib4 = true) :
    Cr3.ofDirectory a false false = .ok a.bits := by
  have low (i : Nat) (hi : i < 12) : a.bits.getLsbD i = false := by
    have zero : a.bits &&& 0xFFF#32 = 0 := by
      rw [Address.isAligned, isAligned, beq_iff_eq] at aligned
      exact aligned
    have mask : ∀ i < 12, (0xFFF#32).getLsbD i = true := by decide
    have bit := congrArg (fun v => BitVec.getLsbD v i) zero
    simpa [mask i hi] using bit
  have nothing : Cr3.cacheDisable.assign (Cr3.writeThrough.assign 0 false) false = 0#32 := by decide
  rw [Cr3.ofDirectory, if_pos aligned, nothing]
  apply congrArg Except.ok
  apply BitVec.eq_of_getLsbD_eq
  intro i hi
  rw [Field.getLsbD_set]
  split
  · rename_i inside
    have inside : 12 ≤ i ∧ i < 12 + 20 := inside
    have place : 12 + (i - 12) = i := Nat.add_sub_cancel' inside.1
    have narrow : i - 12 < 20 := by omega
    simp [Cr3.directoryNumber, narrow, place]
  · rename_i outside
    have below : i < 12 := by
      have outside : ¬ (12 ≤ i ∧ i < 12 + 20) := outside
      omega
    rw [low i below, BitVec.getLsbD_zero]

theorem installDirectory_of_ok {v : Word} (value : Cr3.ofDirectory a false false = .ok v)
    (m : State) : (installDirectory a m).2 = (writeControl .cr3 v m).2 := by
  unfold installDirectory
  rw [value]
  rfl

theorem installDirectory_of_error {f : Fault} (value : Cr3.ofDirectory a false false = .error f)
    (m : State) : (installDirectory a m).2 = m := by
  unfold installDirectory
  rw [value]
  rfl

/-! ## One call -/

/-- The control registers that a call writes. -/
def writes : Call → List ControlRegister
  | .enableProtection | .enablePaging => [.cr0]
  | .installDirectory _ => [.cr3]
  | .enableLargePages => [.cr4]
  | .loadTable _ | .reloadCode _ | .reloadData _ | .protectionEnabled | .probe _ | .pagingEnabled
  | .halt => []

/-- **A register that a call does not write keeps its value.** -/
theorem control_perform (kept : r ∉ writes c) (m : State) :
    (processor.perform c m).2.control r = m.control r := by
  cases c with
  | loadTable | reloadCode | reloadData | protectionEnabled | probe | pagingEnabled | halt => rfl
  | enableProtection | enablePaging | enableLargePages =>
    simp only [writes, List.mem_singleton] at kept
    exact if_neg kept
  | installDirectory a =>
    simp only [writes, List.mem_singleton] at kept
    show (installDirectory a m).2.control r = m.control r
    rcases value : Cr3.ofDirectory a false false with f | v
    · rw [installDirectory_of_error value]
    · rw [installDirectory_of_ok value]
      exact if_neg kept

theorem fixed_perform (c : Call) (m : State) : (processor.perform c m).2.fixed = m.fixed := by
  cases c with
  | installDirectory a =>
    show (installDirectory a m).2.fixed = m.fixed
    rcases value : Cr3.ofDirectory a false false with f | v
    · rw [installDirectory_of_error value]
    · rw [installDirectory_of_ok value]
      rfl
  | _ => rfl

/-- **Only one call turns paging on**; entering protected mode writes the same register, but leaves
bit 31 as it was. -/
theorem translates_perform (other : c ≠ .enablePaging) (m : State) :
    (processor.perform c m).2.Translates = m.Translates := by
  unfold State.Translates
  cases c with
  | enablePaging => exact absurd rfl other
  | enableProtection =>
    show ((m.accepted .cr0 (Cr0.protection.assign (m.control .cr0) true)).getLsbD 31 = true) = _
    have bit : (Cr0.protection.assign (m.control .cr0) true).getLsbD 31 =
        (m.control .cr0).getLsbD 31 := by
      rw [Field.assign, Field.getLsbD_set, if_neg (by decide)]
    -- Bit 31 is fixed, or it is written as it was read.
    rw [State.accepted, BitVec.getLsbD_or, BitVec.getLsbD_and, BitVec.getLsbD_and, bit,
      BitVec.getLsbD_not]
    cases (m.control .cr0).getLsbD 31 <;> cases (m.fixed .cr0).getLsbD 31 <;> rfl
  | _ => rw [control_perform (by simp [writes])]

/-! ## Lists of calls -/

/-- A register that none of the calls writes keeps its value. -/
theorem control_after (kept : ∀ c ∈ calls, r ∉ writes c) (m : State) :
    (processor.after calls m).control r = m.control r :=
  Boot.Processor.after_eq_of_perform_eq (f := fun m => m.control r)
    (fun c mem m => control_perform (kept c mem) m) m

theorem exact_after (exact : m.Exact) (calls : List Call) : (processor.after calls m).Exact := by
  intro r
  have same : (processor.after calls m).fixed = m.fixed :=
    Boot.Processor.after_eq_of_perform_eq (f := State.fixed) (fun c _ m => fixed_perform c m) m
  rw [same]
  exact exact r

theorem translates_after_iff (off : .enablePaging ∉ calls) (m : State) :
    (processor.after calls m).Translates ↔ m.Translates := by
  have same : (processor.after calls m).Translates = m.Translates := by
    apply Boot.Processor.after_eq_of_perform_eq
    rintro c mem m
    apply translates_perform
    rintro rfl
    exact off mem
  rw [same]

/-! ## The calls of the paging stage -/

/-- What was written to a register on which writes are exact is what it holds. -/
theorem control_writeControl (exact : m.Exact) (r : ControlRegister) (v : Word) :
    (writeControl r v m).2.control r = v := by
  show (if r = r then m.accepted r v else m.control r) = v
  rw [if_pos rfl, State.accepted_of_exact exact]

theorem control_modifyControl (exact : m.Exact) (r : ControlRegister) (f : Word → Word) :
    (modifyControl r f m).2.control r = f (m.control r) :=
  control_writeControl (m := m.traced (.readControl r (m.control r))) exact r (f (m.control r))

theorem control_installDirectory (exact : m.Exact) (aligned : a.isAligned .kib4 = true) :
    (processor.perform (.installDirectory a) m).2.control .cr3 = a.bits := by
  show (installDirectory a m).2.control .cr3 = _
  rw [installDirectory_of_ok (ofDirectory_of_aligned aligned)]
  exact control_writeControl exact .cr3 a.bits

/-- Large pages are allowed, and wide tables turned off. -/
theorem control_enableLargePages (exact : m.Exact) :
    ((processor.perform .enableLargePages m).2.control .cr4).getLsbD 4 = true ∧
      (processor.perform .enableLargePages m).2.TwoLevel := by
  have value : (processor.perform .enableLargePages m).2.control .cr4 =
      Cr4.physicalExtension.assign
        (Cr4.pageSizeExtensions.assign (m.control .cr4) true) false := by
    show (enableLargePages m).2.control .cr4 = _
    rw [enableLargePages, control_modifyControl exact]
  rw [State.TwoLevel, value]
  constructor
  · rw [Field.assign, Field.getLsbD_set, if_neg (by decide)]
    exact Field.isSet_assign Cr4.pageSizeExtensions (m.control .cr4) true
  · exact Field.isSet_assign Cr4.physicalExtension _ false

theorem translates_enablePaging (exact : m.Exact) :
    (processor.perform .enablePaging m).2.Translates := by
  have value : (processor.perform .enablePaging m).2.control .cr0 =
      Cr0.paging.assign (m.control .cr0) true := by
    show (enablePaging m).2.control .cr0 = _
    rw [enablePaging, control_modifyControl exact]
  rw [State.Translates, value]
  exact Field.isSet_assign Cr0.paging (m.control .cr0) true

end Machine

end ProtectedBoot
