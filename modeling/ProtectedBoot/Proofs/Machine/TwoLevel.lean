import ProtectedBoot.Proofs.Boot.Demand
import ProtectedBoot.Proofs.Machine.Control
import ProtectedBoot.Proofs.Paging.Walk

/-!
# The machine at the moment paging is turned on

Before it turns paging on, a boot has made the same calls every time: those that lead up to the paging
stage, the one that installs the directory, and with large pages the one that allows them
(`Plan.Allows.calls_of_enablePaging`). What the registers hold then can be read off this list
(`control_after_installCalls`). The directory is in `CR3`, and large pages are allowed if there are
any (`selects_after`). Wide page tables are another matter: only the call that allows large pages turns
them off, and a boot with small pages takes them over as it finds them (`twoLevel_after_iff`).
-/

namespace ProtectedBoot

open Paging (AddressSpace)
open Boot (Call Event PagingStage Plan Processor Session callsBeforePaging dispatch pagingCalls run)

variable {n : Nat} {shape : TableShape}

/-! ## The calls before -/

/-- The calls of the paging stage before the one that turns paging on. -/
def Boot.installCalls (stage : PagingStage) : List Call :=
  .installDirectory stage.base ::
    if stage.config.pageSize = .mib4 then [.enableLargePages] else []

theorem Boot.pagingCalls_eq_append (stage : PagingStage) :
    pagingCalls stage = Boot.installCalls stage ++ [.enablePaging] := rfl

theorem Boot.enablePaging_not_mem {σ : Type} (plan : Plan σ shape) (stage : PagingStage) :
    .enablePaging ∉ callsBeforePaging plan ++ Boot.installCalls stage := by
  intro mem
  rcases List.mem_append.1 mem with early | late
  · cases Boot.Course.concernsPaging_of_mem_callsBeforePaging early
  · unfold Boot.installCalls at late
    split at late <;> simp at late

/-- **The calls before paging is turned on** are the same in every boot of a plan. -/
theorem Boot.Plan.Allows.calls_of_enablePaging {σ : Type} {plan : Plan σ shape} {t : AddressSpace n}
    {before after : List Call} (allowed : plan.Allows t (before ++ .enablePaging :: after)) :
    ∃ stage, plan.paging = some stage ∧ stage.ReadyWith t ∧
      before = callsBeforePaging plan ++ Boot.installCalls stage := by
  cases allowed with
  | before le =>
    have early : Call.enablePaging ∈ callsBeforePaging plan := le.subset (by simp)
    cases Boot.Course.concernsPaging_of_mem_callsBeforePaging early
  | @through stage asked ready le =>
    obtain ⟨rest, all⟩ := le
    have calls : (callsBeforePaging plan ++ Boot.installCalls stage) ++
        .enablePaging :: [.pagingEnabled] = before ++ .enablePaging :: (after ++ rest) := by
      rw [Boot.pagingCalls_eq_append] at all
      simpa using all.symm
    -- The call is made once, so what is before it is determined.
    have split := (List.append_cons_inj_of_notMem (Boot.enablePaging_not_mem plan stage)
      (by simp)).1 calls
    exact ⟨stage, asked, ready, split.1.symm⟩

namespace Machine

variable {plan : Plan State shape} {stage : PagingStage} {t : AddressSpace n} {m : State} {c : Call}

/-! ## What they leave in the registers -/

/-- Nothing changes the extensions before the paging stage. -/
theorem cr4_not_mem_writes (early : c ∈ callsBeforePaging plan) : .cr4 ∉ writes c := by
  have other := Boot.Course.concernsPaging_of_mem_callsBeforePaging early
  cases c <;> simp [writes, Call.concernsPaging] at other ⊢

/-- **The registers before paging is turned on.** -/
theorem control_after_installCalls (plan : Plan State shape) (exact : m.Exact)
    (aligned : stage.base.isAligned .kib4 = true) {u : State}
    (reached : u = processor.after (callsBeforePaging plan ++ Boot.installCalls stage) m) :
    u.control .cr3 = stage.base.bits ∧
      (stage.config.pageSize = .mib4 → (u.control .cr4).getLsbD 4 = true ∧ u.TwoLevel) ∧
      (stage.config.pageSize = .kib4 → u.control .cr4 = m.control .cr4) := by
  have exact_early := exact_after exact (callsBeforePaging plan)
  have cr4_early : (processor.after (callsBeforePaging plan) m).control .cr4 = m.control .cr4 :=
    control_after (fun _ => cr4_not_mem_writes) m
  rw [Processor.after_append_calls] at reached
  generalize processor.after (callsBeforePaging plan) m = v at exact_early cr4_early reached
  have cr3_installed := control_installDirectory exact_early aligned
  have exact_installed : (processor.perform (.installDirectory stage.base) v).2.Exact :=
    exact_after exact_early [.installDirectory stage.base]
  have cr4_installed : (processor.perform (.installDirectory stage.base) v).2.control .cr4 =
      v.control .cr4 := control_perform (by simp [writes]) v
  -- With large pages there is one call more, which leaves the directory where it is.
  cases size : stage.config.pageSize with
  | kib4 =>
    rw [Boot.installCalls, if_neg (by rw [size]; decide)] at reached
    subst reached
    exact ⟨cr3_installed, by simp, fun _ => cr4_installed.trans cr4_early⟩
  | mib4 =>
    rw [Boot.installCalls, if_pos size] at reached
    subst reached
    have cr3_kept : (processor.perform .enableLargePages
        (processor.perform (.installDirectory stage.base) v).2).2.control .cr3 = _ :=
      control_perform (by simp [writes]) _
    exact ⟨cr3_kept.trans cr3_installed, fun _ => control_enableLargePages exact_installed, by simp⟩

/-- The directory is where `CR3` says, and large pages are allowed if there are any. -/
theorem selects_after (plan : Plan State shape) (exact : m.Exact) (ready : stage.ReadyWith t) :
    (processor.after (callsBeforePaging plan ++ Boot.installCalls stage) m).Selects t := by
  obtain ⟨report, built⟩ := ready.built
  have aligned := (Paging.build_eq_ok built).1
  have at_base := Paging.base_of_build built
  obtain ⟨cr3, large, -⟩ := control_after_installCalls plan exact aligned rfl
  refine ⟨?directory, ?low, ?large⟩
  case directory => rw [cr3, at_base]
  case low =>
    rw [cr3]
    apply BitVec.eq_of_toNat_eq
    have page := Address.isAligned_iff_mod.1 aligned
    rw [PageSize.toNat_bytes_kib4] at page
    rw [BitVec.extractLsb'_toNat, Nat.shiftRight_zero]
    exact page
  case large =>
    -- A build of small pages leaves no large page behind that would have to be allowed.
    intro s present leaf
    have kind := Paging.DirEntry.kind_eq_leaf_iff.2 ⟨present, leaf, rfl⟩
    cases size : stage.config.pageSize with
    | kib4 => exact absurd kind (Paging.no_leaf_of_build built size s _)
    | mib4 => exact (large size).1

/-- **Page tables have two levels** where large pages were allowed, or where they had before. -/
theorem twoLevel_after_iff (plan : Plan State shape) (exact : m.Exact)
    (ready : stage.ReadyWith t) :
    (processor.after (callsBeforePaging plan ++ Boot.installCalls stage) m).TwoLevel ↔
      stage.config.pageSize = .mib4 ∨ m.TwoLevel := by
  obtain ⟨report, built⟩ := ready.built
  have aligned := (Paging.build_eq_ok built).1
  obtain ⟨-, large, small⟩ := control_after_installCalls plan exact aligned rfl
  cases size : stage.config.pageSize with
  | kib4 =>
    rw [State.TwoLevel, small size]
    simp [State.TwoLevel]
  | mib4 => simp [(large size).2]

/-! ## The moment -/

/-- **The machine at the moment paging is turned on**, on which writes to control registers are exact,
whatever is in them at the start and whichever way the boot goes. The machine `m` that the call finds is
on the way of the run. It is this call that turns paging on: none before it does, and the call changes
neither `CR3` nor `CR4`. `CR3` then holds the address of the directory that was built, with the low
twelve bits zero, and large pages are allowed if there is one in the directory. But page tables have two
levels only if large pages are asked for, or if they had two levels from the start. -/
theorem registers_at_enablePaging (plan : Plan State shape) (s : Session State n)
    (exact : s.machine.Exact) {before after : List Event}
    (called : (dispatch processor plan s).2.events =
      s.events ++ (before ++ .call .enablePaging :: after)) :
    ∃ calls rest stage m, before = calls.map .call ∧ m = processor.after calls s.machine ∧
      (run processor plan s).2.machine =
        processor.after rest (processor.perform .enablePaging m).2 ∧
      plan.paging = some stage ∧ stage.ReadyWith (dispatch processor plan s).2.tables ∧
      (m.Translates ↔ s.machine.Translates) ∧ (processor.perform .enablePaging m).2.Translates ∧
      (∀ r, r ≠ .cr0 → (processor.perform .enablePaging m).2.control r = m.control r) ∧
      m.Selects (dispatch processor plan s).2.tables ∧
      (m.TwoLevel ↔ stage.config.pageSize = .mib4 ∨ s.machine.TwoLevel) := by
  obtain ⟨calls, allowed, reached⟩ := Boot.run_reached processor plan s
  obtain ⟨tables, closing, harmless, events⟩ := Boot.dispatch_after_run processor plan s
  rw [events, reached.events, List.append_assoc] at called
  rw [tables]
  -- The call is one of the run, since what comes behind a run is no call but the halt.
  rcases Boot.eq_halt_or_split harmless (List.append_cancel_left called) with
    halt | ⟨l, rest, rfl, rfl⟩
  · cases halt
  · obtain ⟨stage, asked, ready, rfl⟩ := allowed.calls_of_enablePaging
    have machine := reached.machine
    rw [Processor.after_append_calls] at machine
    refine ⟨_, rest, stage, _, rfl, rfl, machine, asked, ready,
      translates_after_iff (Boot.enablePaging_not_mem plan stage) s.machine,
      translates_enablePaging (exact_after exact _), ?_, selects_after plan exact ready,
      twoLevel_after_iff plan exact ready⟩
    intro r other
    exact control_perform (by simpa [writes] using other) _

/-! ## A machine with wide page tables -/

/-- Paging with pages of one size, turned on by code in low memory. -/
def lowStage (z : PageSize) : PagingStage where
  base := ⟨0x200000⟩
  config := ⟨0x1800, ⟨0x1234⟩, ⟨0x2001⟩, 0xC0000000, z⟩
  keepMapped := [⟨0x1234⟩]

/-- A plan without probes whose kernel does nothing. -/
def lowPlan (z : PageSize) : Plan State .kernelOnly where
  table := Boot.smallPlan.table
  probes := []
  paging := some (lowStage z)
  kernel := fun m => ([], m)

/-- A machine that the boot loader left with wide page tables, and two page tables. -/
def wideStart : Session State 2 := .start (.start 0x11 0 0x20 0 0 .zeroed 0) 0

theorem wideStart_exact : wideStart.machine.Exact := by
  intro r
  cases r <;> rfl

/-- The calls of the plan up to the directory and large pages. -/
def lowCalls (z : PageSize) : List Call :=
  callsBeforePaging (lowPlan z) ++ Boot.installCalls (lowStage z)

/-- Large pages are turned on with two levels, although the machine had wide page tables. -/
theorem registers_at_enablePaging_large :
    ¬ wideStart.machine.TwoLevel ∧
    (processor.after (lowCalls .mib4) wideStart.machine).TwoLevel ∧
    (processor.after (lowCalls .mib4) wideStart.machine).Selects
      (dispatch processor (lowPlan .mib4) wideStart).2.tables := by
  have called : (dispatch processor (lowPlan .mib4) wideStart).2.events =
      wideStart.events ++ ((lowCalls .mib4).map .call ++ .call .enablePaging ::
        [.call .pagingEnabled, .kernelEntry, .call .halt]) := by
    decide +kernel
  obtain ⟨calls, rest, stage, m, same, reached, -, asked, -, -, -, -, selects, twoLevel⟩ :=
    registers_at_enablePaging (lowPlan .mib4) wideStart wideStart_exact called
  obtain rfl : lowCalls .mib4 = calls :=
    List.map_injective_iff.2 (fun _ _ h => Event.call.inj h) same
  cases asked
  subst reached
  exact ⟨by decide, twoLevel.2 (.inl rfl), selects⟩

/-- Small pages are turned on with wide page tables: bit 5 of `CR4` is still set when bit 31 of `CR0`
is. -/
theorem wide_at_enablePaging_small :
    wideStart.machine.Exact ∧
    (dispatch processor (lowPlan .kib4) wideStart).2.events =
      wideStart.events ++ ((lowCalls .kib4).map .call ++ .call .enablePaging ::
        [.call .pagingEnabled, .kernelEntry, .call .halt]) ∧
    ¬ (processor.after (lowCalls .kib4) wideStart.machine).TwoLevel ∧
    (processor.after (lowCalls .kib4 ++ [.enablePaging]) wideStart.machine).Translates ∧
    ¬ (processor.after (lowCalls .kib4 ++ [.enablePaging]) wideStart.machine).TwoLevel := by
  refine ⟨wideStart_exact, ?_⟩
  decide +kernel

end Machine

end ProtectedBoot
