import ProtectedBoot.Boot.Sequence

/-!
# The course of a boot

A boot takes one of five courses. Which one it takes hangs on what the processor answers when it is
asked for its mode and on whether the paging stage is **ready**: the page tables can be built, and all
that is in use stays where it is. The course and the plan together determine every event of the boot
(`Course.events`); what the probes find does not matter.
-/

namespace ProtectedBoot.Boot

open Paging (AddressSpace)

variable {σ : Type} {n : Nat} {shape : TableShape}

/-! ## Processors -/

namespace Processor

/-- The processor carries out every call. -/
def Dependable (cpu : Processor σ) : Prop := ∀ c s, ∃ a, (cpu.perform c s).1 = .ok a

/-- The state of the processor after calls, one after the other. -/
def after (cpu : Processor σ) (calls : List Call) (s : σ) : σ :=
  calls.foldl (fun s c => (cpu.perform c s).2) s

/-- What the processor answers to a question after calls. -/
def answer (cpu : Processor σ) (calls : List Call) (s : σ) (c : Call) : Except Fault c.Answer :=
  (cpu.perform c (cpu.after calls s)).1

end Processor

/-! ## Readiness -/

/-- The stage can be carried out with the page tables `t`: they are what building leaves behind, and
every address in use is mapped to itself. -/
structure PagingStage.ReadyWith (stage : PagingStage) (t : AddressSpace n) : Prop where
  built : ∃ result,
    Paging.build stage.base stage.config (AddressSpace.empty n) = (.ok result, t)
  kept : ∀ a ∈ stage.keepMapped, t.translate (a.recast .virtual) = .ok (some a)

/-- The stage can be carried out. -/
def PagingStage.Ready (stage : PagingStage) (n : Nat) : Prop :=
  ∃ t : AddressSpace n, stage.ReadyWith t

/-- Building the page tables of the stage does not fault. -/
def PagingStage.Faultless (stage : PagingStage) (n : Nat) : Prop :=
  ∀ f, (Paging.build stage.base stage.config (AddressSpace.empty n)).1 ≠ .error (.fault f)

/-- The stage cannot be carried out, and the reason says why: its page tables cannot be built, or an
address in use would move. -/
def PagingStage.RefusedFor (stage : PagingStage) (n : Nat) (reason : BootError) : Prop :=
  ¬ stage.Ready n ∧
    ((∃ cause, reason = .paging cause) ∨ ∃ a ∈ stage.keepMapped, reason = .notIdentityMapped a)

/-! ## Courses -/

/-- The calls that take the processor into protected mode. -/
def protectionCalls (b : BoundTable shape) : List Call :=
  [.loadTable b.pointer, .enableProtection, .reloadCode kernelCode, .reloadData kernelData]

/-- The calls of a plan up to the paging stage. -/
def callsBeforePaging (plan : Plan σ shape) : List Call :=
  protectionCalls plan.table ++ [.protectionEnabled] ++
    plan.probes.map fun p => .probe p.address

/-- The calls that turn paging on. -/
def pagingCalls (stage : PagingStage) : List Call :=
  [.installDirectory stage.base] ++
    (if stage.config.pageSize = .mib4 then [.enableLargePages] else []) ++ [.enablePaging]

/-- The calls that only the paging stage makes. -/
def Call.concernsPaging : Call → Bool
  | .installDirectory _ | .enableLargePages | .enablePaging | .pagingEnabled => true
  | _ => false

/-- The ways in which a boot can go. -/
inductive Course where
  /-- The processor does not enter protected mode. -/
  | unprotected
  /-- Paging is not asked for. -/
  | unpaged
  /-- The paging stage is not ready. -/
  | refused
  /-- The processor does not turn paging on. -/
  | untranslated
  /-- The processor turns paging on. -/
  | translated
deriving DecidableEq

namespace Course

/-- Whether the kernel is entered. -/
def entersKernel : Course → Bool
  | unpaged | translated => true
  | unprotected | refused | untranslated => false

/-- The calls of a course before the kernel is entered or the boot aborted. -/
def calls (course : Course) (plan : Plan σ shape) : List Call :=
  match course with
  | unprotected => protectionCalls plan.table ++ [.protectionEnabled]
  | unpaged | refused => callsBeforePaging plan
  | untranslated | translated =>
    callsBeforePaging plan ++ (plan.paging.map pagingCalls).getD [] ++ [.pagingEnabled]

/-- All events of a course: its calls, the kernel, if it is entered, and at last the halt. -/
def events (course : Course) (plan : Plan σ shape) : List Event :=
  (course.calls plan).map Event.call ++ (if course.entersKernel then [.kernelEntry] else []) ++
    [.call .halt]

/-- The course that a boot takes on a processor in a given state, with a pool of `n` page tables. -/
inductive Taken (cpu : Processor σ) (plan : Plan σ shape) (s : σ) (n : Nat) : Course → Prop where
  | unprotected :
      cpu.answer (protectionCalls plan.table) s .protectionEnabled = .ok false →
      Taken cpu plan s n .unprotected
  | unpaged :
      cpu.answer (protectionCalls plan.table) s .protectionEnabled = .ok true →
      plan.paging = none →
      Taken cpu plan s n .unpaged
  | refused {stage : PagingStage} :
      cpu.answer (protectionCalls plan.table) s .protectionEnabled = .ok true →
      plan.paging = some stage → ¬ stage.Ready n →
      Taken cpu plan s n .refused
  | untranslated {stage : PagingStage} :
      cpu.answer (protectionCalls plan.table) s .protectionEnabled = .ok true →
      plan.paging = some stage → stage.Ready n →
      cpu.answer (callsBeforePaging plan ++ pagingCalls stage) s .pagingEnabled = .ok false →
      Taken cpu plan s n .untranslated
  | translated {stage : PagingStage} :
      cpu.answer (protectionCalls plan.table) s .protectionEnabled = .ok true →
      plan.paging = some stage → stage.Ready n →
      cpu.answer (callsBeforePaging plan ++ pagingCalls stage) s .pagingEnabled = .ok true →
      Taken cpu plan s n .translated

end Course

end ProtectedBoot.Boot
