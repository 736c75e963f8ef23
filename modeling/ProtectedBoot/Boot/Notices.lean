import ProtectedBoot.Boot.Course
import ProtectedBoot.Screen.Notice

/-!
# What a boot shows

Each step that was completed puts a notice on the board, and so does each probe, whatever it found. A
boot that is aborted adds one notice more, with the label of the step that failed.
-/

namespace ProtectedBoot.Boot

open Screen (Notice)

variable {σ : Type} {shape : TableShape}

namespace Plan

/-- The calls of a plan before its probe number `i`. -/
def callsBeforeProbe (plan : Plan σ shape) (i : Nat) : List Call :=
  protectionCalls plan.table ++ [.protectionEnabled] ++
    (plan.probes.take i).map fun p => .probe p.address

/-- What probe number `i` of the plan is answered with, if it is at an address. -/
def probeAnswer (plan : Plan σ shape) (cpu : Processor σ) (s : σ) (i : Nat) (a : PhysAddr) :
    Except Fault Bool :=
  cpu.answer (plan.callsBeforeProbe i) s (.probe a)

/-- Whether the probe finds that memory does not keep what is stored there. -/
def probeFails (plan : Plan σ shape) (cpu : Processor σ) (s : σ) (i : Nat) (p : Probe) : Bool :=
  match plan.probeAnswer cpu s i p.address with
  | .ok keeps => !keeps
  | .error _ => false

theorem probeFails_iff {plan : Plan σ shape} {cpu : Processor σ} {s : σ} {i : Nat} {p : Probe} :
    plan.probeFails cpu s i p = true ↔ plan.probeAnswer cpu s i p.address = .ok false := by
  rw [probeFails]
  rcases plan.probeAnswer cpu s i p.address with f | keeps
  · simp
  · cases keeps <;> simp

/-- The notice of a probe. -/
def probeNotice (plan : Plan σ shape) (cpu : Processor σ) (s : σ) (i : Nat) (p : Probe) : Notice :=
  .outcome p.label (!plan.probeFails cpu s i p)

/-- The notices of a boot up to the paging stage. -/
def noticesBeforePaging (plan : Plan σ shape) (cpu : Processor σ) (s : σ) : List Notice :=
  [.outcome "descriptor table loaded" true, .outcome "protected mode" true] ++
    plan.probes.mapIdx (plan.probeNotice cpu s)

/-- The notices of a boot that is aborted, up to that of the step that failed. -/
def noticesBefore (plan : Plan σ shape) (cpu : Processor σ) (s : σ) : BootError → List Notice
  | .protectionNotEnabled => [.outcome "descriptor table loaded" true]
  | .table _ | .paging _ | .notIdentityMapped _ | .pagingNotEnabled => plan.noticesBeforePaging cpu s

end Plan

end ProtectedBoot.Boot
