import ProtectedBoot.Boot.Notices
import ProtectedBoot.Proofs.Machine.TwoLevel

/-!
# What a boot changes in the machine

What a call makes of the control registers can be said with masks (`effect`), and what it is answered
with follows from what they hold (`reply`). A machine on which writes are exact does just that, and at
the end of each call its memory is what it was (`control_effect`, `memory_perform`, `answer_perform`).

So a boot can be gone through with nothing in mind but the values of the control registers
(`Holding`). The questions whether the processor did as it was told are then answered before they are
asked, every probe passes, and the directory that is installed starts a page, because it was built. Of
all that may end a run before its time, what is left is a paging stage that is not ready
(`run_holding`).
-/

namespace ProtectedBoot

open Attempt (Triple)
open Boot

variable {n : Nat} {shape : TableShape}

namespace Machine

variable {plan : Plan State shape} {stage : PagingStage} {m : State} {c : Call}
  {v : ControlRegister → Word} {mem : Memory}

/-! ## What a call does -/

/-- What a call makes of the control registers. -/
def effect (v : ControlRegister → Word) : Call → ControlRegister → Word
  | .enableProtection => Function.update v .cr0 (v .cr0 ||| 1)
  | .enablePaging => Function.update v .cr0 (v .cr0 ||| 0x80000000)
  | .installDirectory a => Function.update v .cr3 a.bits
  | .enableLargePages => Function.update v .cr4 ((v .cr4 ||| 0x10) &&& ~~~0x20)
  | .loadTable _ | .reloadCode _ | .reloadData _ | .protectionEnabled | .probe _ | .pagingEnabled
  | .halt => v

/-- What a call is answered with. -/
def reply (v : ControlRegister → Word) : (c : Call) → c.Answer
  | .protectionEnabled => (v .cr0).getLsbD 0
  | .pagingEnabled => (v .cr0).getLsbD 31
  | .probe _ => true
  | .loadTable _ | .enableProtection | .reloadCode _ | .reloadData _ | .installDirectory _
  | .enableLargePages | .enablePaging | .halt => ()

/-- A directory that is to be installed starts a page. -/
def Installable : Call → Prop
  | .installDirectory a => a.isAligned .kib4 = true
  | _ => True

theorem control_writeControl_eq (exact : m.Exact) (r : ControlRegister) (x : Word) :
    (writeControl r x m).2.control = Function.update m.control r x := by
  funext q
  by_cases same : q = r
  · rw [same, control_writeControl exact, Function.update_self]
  · rw [Function.update_of_ne same]
    exact if_neg same

theorem control_modifyControl_eq (exact : m.Exact) (r : ControlRegister) (f : Word → Word) :
    (modifyControl r f m).2.control = Function.update m.control r (f (m.control r)) :=
  control_writeControl_eq (m := m.traced (.readControl r (m.control r))) exact r (f (m.control r))

theorem installDirectory_of_aligned {a : PhysAddr} (aligned : a.isAligned .kib4 = true) (m : State) :
    installDirectory a m = (.ok (), (writeControl .cr3 a.bits m).2) := by
  unfold installDirectory
  rw [ofDirectory_of_aligned aligned]
  rfl

/-- **The control registers behind a call.** -/
theorem control_effect (exact : m.Exact) (installable : Installable c) :
    (processor.perform c m).2.control = effect m.control c := by
  cases c with
  | loadTable | reloadCode | reloadData | protectionEnabled | probe | pagingEnabled | halt => rfl
  | enableProtection =>
    show (enableProtection m).2.control = _
    rw [enableProtection, control_modifyControl_eq exact, Field.assign_true]
    rfl
  | enablePaging =>
    show (enablePaging m).2.control = _
    rw [enablePaging, control_modifyControl_eq exact, Field.assign_true]
    rfl
  | installDirectory a =>
    show (installDirectory a m).2.control = _
    rw [installDirectory_of_aligned installable, control_writeControl_eq exact]
    rfl
  | enableLargePages =>
    show (enableLargePages m).2.control = _
    rw [enableLargePages, control_modifyControl_eq exact, Field.assign_true, Field.assign_false]
    rfl

/-- **No call leaves a trace in memory**: a probe puts back what was there. -/
theorem memory_perform (c : Call) (m : State) : (processor.perform c m).2.memory = m.memory := by
  cases c with
  | probe a =>
    show (m.memory.write a.toNat probePattern).write a.toNat (m.memory.byte a.toNat) = m.memory
    rw [Memory.write_write, Memory.write_self]
  | installDirectory a =>
    show (installDirectory a m).2.memory = m.memory
    rcases value : Cr3.ofDirectory a false false with f | x
    · rw [installDirectory_of_error value]
    · rw [installDirectory_of_ok value]
      rfl
  | _ => rfl

/-- **The answer to a call.** -/
theorem answer_perform (installable : Installable c) (m : State) :
    (processor.perform c m).1 = .ok (reply m.control c) := by
  cases c with
  | probe a =>
    show Except.ok ((m.memory.write a.toNat probePattern).byte a.toNat == probePattern) = .ok true
    rw [Memory.write_same, beq_self_eq_true]
  | installDirectory a =>
    show (installDirectory a m).1 = .ok ()
    rw [installDirectory_of_aligned installable]
  | _ => rfl

theorem memory_after (calls : List Call) (m : State) :
    (processor.after calls m).memory = m.memory :=
  Processor.after_eq_of_perform_eq (f := State.memory) (fun c _ m => memory_perform c m) m

/-! ## What the machine holds along a run -/

/-- The machine takes what is written to its control registers, which hold `v`, and its memory is
`mem`. -/
structure Holding (v : ControlRegister → Word) (mem : Memory) (s : Session State n) : Prop where
  exact : s.machine.Exact
  control : s.machine.control = v
  memory : s.machine.memory = mem

section Steps

variable {E : Stop BootError → Session State n → Prop}

theorem call_holding (c : Call) (installable : Installable c) :
    Triple (Holding v mem) (call processor c : Step State n _)
      (fun a s => a = reply v c ∧ Holding (effect v c) mem s) E := by
  intro s holding
  have answered := answer_perform installable s.machine
  have exact : (processor.perform c s.machine).2.Exact := exact_after holding.exact [c]
  have control := control_effect holding.exact installable
  have memory := memory_perform c s.machine
  rw [call]
  rcases performed : processor.perform c s.machine with ⟨result, m⟩
  rw [performed] at answered exact control memory
  obtain rfl : result = _ := answered
  refine ⟨by rw [holding.control], exact, ?_, memory.trans holding.memory⟩
  rw [← holding.control]
  exact control

/-- A call whose answer does not matter. -/
theorem tell_holding (c : Call) (installable : Installable c) :
    Triple (Holding v mem) (call processor c : Step State n _)
      (fun _ => Holding (effect v c) mem) E :=
  (call_holding c installable).weaken fun _ _ h => h.2

theorem append_holding (records : List Log.Record) :
    Triple (Holding v mem) (append records : Step State n _) (fun _ => Holding v mem) E :=
  Triple.update fun _ h => ⟨h.exact, h.control, h.memory⟩

theorem display_holding (label : String) (ok : Bool) :
    Triple (Holding v mem) (display label ok : Step State n _) (fun _ => Holding v mem) E :=
  Triple.update fun _ h => ⟨h.exact, h.control, h.memory⟩

theorem enterProtectedMode_holding (b : BoundTable shape) :
    Triple (Holding v mem) (enterProtectedMode processor b : Step State n _)
      (fun _ => Holding (effect v .enableProtection) mem) E := by
  have loaded : Triple (Holding v mem) (load processor b : Step State n _)
      (fun _ => Holding (effect v .enableProtection) mem) E := by
    rw [load]
    refine (tell_holding (.loadTable _) trivial).bind fun _ => ?_
    refine (tell_holding .enableProtection trivial).bind fun _ => ?_
    refine (tell_holding (.reloadCode _) trivial).bind fun _ => ?_
    refine (tell_holding (.reloadData _) trivial).bind fun _ => ?_
    exact (append_holding _).bind fun _ => Triple.pure fun _ h => h
  rw [enterProtectedMode]
  refine loaded.bind fun _ => (display_holding _ _).bind fun _ => ?_
  refine (call_holding .protectionEnabled trivial).bind fun answer => ?_
  refine Triple.assuming fun answered => ?_
  have yes : answer = true := by
    rw [answered]
    show (v .cr0 ||| 1#32).getLsbD 0 = true
    rw [BitVec.getLsbD_or]
    exact Bool.or_true _
  rw [if_pos yes]
  exact (append_holding _).bind fun _ => display_holding _ _

/-- **Every probe passes**, however often its address was probed before. -/
theorem probeAll_holding (tally : Tally) (probes : List Probe) :
    Triple (Holding v mem) (probeAll processor tally probes : Step State n _)
      (fun r s => r = { tally with passed := tally.passed + probes.length } ∧ Holding v mem s) E := by
  induction probes generalizing tally with
  | nil => exact Triple.pure fun _ h => ⟨rfl, h⟩
  | cons p rest ih =>
    have passed : Triple (Holding v mem) (Boot.probe processor p : Step State n _)
        (fun ok s => ok = true ∧ Holding v mem s) E := by
      rw [Boot.probe]
      refine (call_holding (.probe _) trivial).bind fun ok => Triple.assuming fun answered => ?_
      obtain rfl : ok = true := answered
      refine (append_holding _).bind fun _ => (display_holding _ _).bind fun _ => ?_
      exact Triple.pure fun _ h => ⟨rfl, h⟩
    rw [probeAll]
    refine passed.bind fun ok => Triple.assuming fun yes => ?_
    subst yes
    refine (ih (tally.count true)).weaken fun r s h => ⟨h.1.trans ?_, h.2⟩
    rw [List.length_cons, Nat.add_comm rest.length, ← Nat.add_assoc]
    rfl

theorem confirm_holding :
    Triple (Holding v mem)
      (do
        call processor .enablePaging
        if !(← call processor .pagingEnabled) then Attempt.refuse .pagingNotEnabled : Step State n _)
      (fun _ => Holding (effect v .enablePaging) mem) E := by
  refine (tell_holding .enablePaging trivial).bind fun _ => ?_
  refine (call_holding .pagingEnabled trivial).bind fun answer => ?_
  refine Triple.assuming fun answered => ?_
  have yes : answer = true := by
    rw [answered]
    show (v .cr0 ||| 0x80000000#32).getLsbD 31 = true
    rw [BitVec.getLsbD_or]
    exact Bool.or_true _
  rw [yes]
  exact Triple.pure fun _ h => h

/-- **Turning paging on** does what its calls do, and nothing stops it: the directory of tables that
were built starts a page. -/
theorem turnPagingOn_holding (stage : PagingStage) :
    Triple (fun s => stage.ReadyWith s.tables ∧ Holding v mem s)
      (turnPagingOn processor stage : Step State n _)
      (fun _ => Holding ((pagingCalls stage).foldl effect v) mem) E := by
  have look : Triple (fun s => stage.ReadyWith s.tables ∧ Holding v mem s)
      (Attempt.state : Step State n _)
      (fun s' s => (s'.tables.base = stage.base ∧ stage.base.isAligned .kib4 = true) ∧
        Holding v mem s) E := by
    refine Triple.state fun s h => ⟨?_, h.2⟩
    obtain ⟨r, built⟩ := h.1.built
    exact ⟨Paging.base_of_build built, (Paging.build_eq_ok built).1⟩
  rw [turnPagingOn, pagingCalls_eq_append, List.foldl_append]
  refine look.bind fun s' => Triple.assuming fun installed => ?_
  obtain ⟨same, aligned⟩ := installed
  rw [same]
  refine (tell_holding (.installDirectory stage.base) aligned).bind fun _ => ?_
  rw [installCalls]
  split
  · exact (tell_holding .enableLargePages trivial).bind fun _ => confirm_holding
  · exact confirm_holding

end Steps

/-- A run has been refused, because the stage of the plan was not ready. -/
def Refused (plan : Plan State shape) (v : ControlRegister → Word) (mem : Memory) :
    Stop BootError → Session State n → Prop
  | .refused reason, s => (∃ stage ∈ plan.paging, stage.RefusedFor n reason) ∧ Holding v mem s
  | .fault _, _ => False

theorem performStage_holding (asked : plan.paging = some stage) (faultless : stage.Faultless n) :
    Triple (Holding v mem) (performStage processor stage : Step State n _)
      (fun _ s => stage.Ready n ∧ Holding ((pagingCalls stage).foldl effect v) mem s)
      (Refused plan v mem) := by
  have prepared : Triple (Holding v mem) (prepare stage : Step State n _)
      (fun _ s => stage.Ready n ∧ stage.ReadyWith s.tables ∧ Holding v mem s)
      (Refused plan v mem) := by
    intro s holding
    rcases prepare_ends stage s with ⟨summary, u, logs, ran, ready⟩ |
      ⟨reason, u, logs, ran, refused⟩ | ⟨f, u, logs, -, faulty⟩
    · rw [ran]
      exact ⟨⟨u, ready⟩, ready, holding.exact, holding.control, holding.memory⟩
    · rw [ran]
      exact ⟨⟨stage, asked, refused⟩, holding.exact, holding.control, holding.memory⟩
    · exact absurd faultless faulty
  rw [performStage]
  refine prepared.bind fun _ => Triple.assuming fun ready => ?_
  refine (turnPagingOn_holding stage).bind fun _ => ?_
  refine (append_holding _).bind fun _ => (display_holding _ _).bind fun _ => ?_
  exact Triple.pure fun _ h => ⟨ready, h⟩

/-- **A run** carries out the calls of its plan and finds every probe passed, or it is refused where
the paging stage begins. -/
theorem run_holding (plan : Plan State shape) (faultless : ∀ stage ∈ plan.paging, stage.Faultless n) :
    Triple (Holding v mem) (run processor plan : Step State n _)
      (fun report s => report.probes = ⟨plan.probes.length, 0⟩ ∧
        (∀ stage ∈ plan.paging, stage.Ready n) ∧
        Holding (((plan.paging.map pagingCalls).getD []).foldl effect (effect v .enableProtection))
          mem s)
      (Refused plan (effect v .enableProtection) mem) := by
  rw [run]
  refine (enterProtectedMode_holding plan.table).bind fun _ => ?_
  refine (probeAll_holding ⟨0, 0⟩ plan.probes).bind fun tally => Triple.assuming fun counted => ?_
  rw [Nat.zero_add] at counted
  rcases asked : plan.paging with _ | stage
  · refine Triple.pure fun s h => ⟨counted, fun stage mem => ?_, h⟩
    cases mem
  · refine (performStage_holding asked (faultless stage asked)).bind fun _ => ?_
    refine Triple.pure fun s h => ⟨counted, ?_, h.2⟩
    rintro _ ⟨⟩
    exact h.1

/-! ## What the machine holds when the boot is over -/

/-- The control registers behind the paging stage. -/
theorem foldl_pagingCalls (stage : PagingStage) (v : ControlRegister → Word) :
    (pagingCalls stage).foldl effect v .cr0 = v .cr0 ||| 0x80000000 ∧
      (pagingCalls stage).foldl effect v .cr3 = stage.base.bits ∧
      (pagingCalls stage).foldl effect v .cr4 = match stage.config.pageSize with
        | .mib4 => (v .cr4 ||| 0x10) &&& ~~~0x20
        | .kib4 => v .cr4 := by
  cases size : stage.config.pageSize with
  | mib4 =>
    rw [pagingCalls, if_pos size]
    exact ⟨rfl, rfl, rfl⟩
  | kib4 =>
    rw [pagingCalls, if_neg (by rw [size]; decide)]
    exact ⟨rfl, rfl, rfl⟩

variable {s u : Session State n}

/-- After a run that went well, the boot leaves the control registers to the kernel. -/
theorem dispatch_of_ok {report : Report} (ran : run processor plan s = (.ok report, u)) :
    ∃ t, dispatch processor plan s = (.ok (), t) ∧ t.machine.halted = true ∧
      t.machine.control = (plan.kernel u.machine).2.control := by
  rw [dispatch, Attempt.bind_apply, Attempt.settle, ran]
  exact ⟨_, rfl, rfl, rfl⟩

/-- After a run that was refused, the boot leaves the control registers as they are. -/
theorem dispatch_of_refused {reason : BootError}
    (ran : run processor plan s = (.error (.refused reason), u)) :
    ∃ t, dispatch processor plan s = (.ok (), t) ∧ t.machine.halted = true ∧
      t.machine.control = u.machine.control := by
  rw [dispatch, Attempt.bind_apply, Attempt.settle, ran]
  exact ⟨_, rfl, rfl, rfl⟩

/-- **What a boot changes in a machine** on which writes to control registers are exact, whatever is in
them and in memory at the start, and with a kernel that leaves them alone.

A run goes well, with every probe passed, unless its paging stage is not ready; it is refused for no
other reason. Memory is at each probe what it was at the start, and so it is when the run is over.
Nothing faults, so the boot comes to its halt. Bit 0 of `CR0` is then set. If the plan has a paging
stage that is ready, bit 31 of `CR0` is set too, `CR3` is the address of the directory, and with large
pages bit 4 of `CR4` is set and bit 5 is clear. Each other bit of these registers is what it was. -/
theorem registers_at_halt (plan : Plan State shape) (s : Session State n) (exact : s.machine.Exact)
    (faultless : ∀ stage ∈ plan.paging, stage.Faultless n)
    (harmless : ∀ m, (plan.kernel m).2.control = m.control) :
    ((∃ report u, run processor plan s = (.ok report, u) ∧
        report.probes = ⟨plan.probes.length, 0⟩ ∧ ∀ stage ∈ plan.paging, stage.Ready n) ∨
      ∃ reason u, run processor plan s = (.error (.refused reason), u) ∧
        ∃ stage ∈ plan.paging, stage.RefusedFor n reason) ∧
    (∀ i p, plan.probes[i]? = some p →
      plan.probeAnswer processor s.machine i p.address = .ok true ∧
      (processor.after (plan.callsBeforeProbe i) s.machine).memory = s.machine.memory) ∧
    (run processor plan s).2.machine.memory = s.machine.memory ∧
    ∃ t, dispatch processor plan s = (.ok (), t) ∧ t.machine.halted = true ∧
      (∀ stage ∈ plan.paging, stage.Ready n →
        t.machine.control .cr0 = s.machine.control .cr0 ||| 0x80000001 ∧
        t.machine.control .cr3 = stage.base.bits ∧
        t.machine.control .cr4 = match stage.config.pageSize with
          | .mib4 => (s.machine.control .cr4 ||| 0x10) &&& ~~~0x20
          | .kib4 => s.machine.control .cr4) ∧
      ((∀ stage ∈ plan.paging, ¬ stage.Ready n) →
        t.machine.control .cr0 = s.machine.control .cr0 ||| 1 ∧
        t.machine.control .cr3 = s.machine.control .cr3 ∧
        t.machine.control .cr4 = s.machine.control .cr4) := by
  have probed (i : Nat) (p : Probe) (_ : plan.probes[i]? = some p) :
      plan.probeAnswer processor s.machine i p.address = .ok true ∧
      (processor.after (plan.callsBeforeProbe i) s.machine).memory = s.machine.memory :=
    ⟨answer_perform (c := .probe p.address) trivial _, memory_after _ _⟩
  rcases (run_holding plan faultless).ends (s := s) ⟨exact, rfl, rfl⟩ with
    ⟨report, u, ran, counted, ready, holding⟩ | ⟨reason | f, u, ran, stopped⟩
  case inl =>
    obtain ⟨t, dispatched, halted, control⟩ := dispatch_of_ok ran
    rw [harmless, holding.control] at control
    refine ⟨.inl ⟨report, u, ran, counted, ready⟩, probed, ?_, t, dispatched, halted, ?_, ?_⟩
    · rw [ran]
      exact holding.memory
    · intro stage asked _
      obtain ⟨cr0, cr3, cr4⟩ := foldl_pagingCalls stage (effect s.machine.control .enableProtection)
      rw [control, Option.mem_def.1 asked]
      refine ⟨cr0.trans ?_, cr3, cr4⟩
      exact BitVec.or_assoc _ 1#32 0x80000000#32
    · intro not_ready
      rcases asked : plan.paging with _ | stage
      · rw [control, asked]
        exact ⟨rfl, rfl, rfl⟩
      · exact absurd (ready stage asked) (not_ready stage asked)
  case inr.refused =>
    obtain ⟨⟨stage, asked, not_ready, why⟩, holding⟩ := stopped
    obtain ⟨t, dispatched, halted, control⟩ := dispatch_of_refused ran
    rw [holding.control] at control
    refine ⟨.inr ⟨reason, u, ran, stage, asked, not_ready, why⟩, probed, ?_, t, dispatched, halted,
      ?_, ?_⟩
    · rw [ran]
      exact holding.memory
    · intro other asked' ready
      obtain rfl := Option.mem_unique asked asked'
      exact absurd ready not_ready
    · intro _
      rw [control]
      exact ⟨rfl, rfl, rfl⟩
  case inr.fault => exact stopped.elim

/-- Large pages turned on after probes at one address twice and at the address behind it. -/
def probedPlan : Plan State .kernelOnly :=
  { lowPlan .mib4 with
    probes := [⟨"low", ⟨0x1000⟩⟩, ⟨"low", ⟨0x1000⟩⟩, ⟨"behind", ⟨0x1001⟩⟩] }

/-- A machine with bits in all its registers that a boot has no business with, and two page tables. -/
def usedStart : Session State 2 :=
  .start (.start 0x7FFF0010 0xDEADBFFF 0xFFFFF86F 0 0 ⟨BitVec.ofNat 8⟩ 1) 0

theorem lowStage_ready : (lowStage .mib4).Ready 2 ∧ (lowStage .mib4).Faultless 2 := by
  have builds : (Paging.build (lowStage .mib4).base (lowStage .mib4).config (.empty 2)).1.isOk = true := by
    decide +kernel
  rcases ran : Paging.build (lowStage .mib4).base (lowStage .mib4).config (.empty 2) with ⟨e | r, u⟩
  · rw [ran] at builds
    cases builds
  · refine ⟨(PagingStage.ready_iff ran).2 fun a kept => ?_, fun f fault => ?_⟩
    · rw [List.mem_singleton.1 kept]
      exact Paging.translate_low_of_build ran (by decide)
    · rw [ran] at fault
      cases fault

theorem probedPlan_at_halt :
    usedStart.machine.Exact ∧ (∀ stage ∈ probedPlan.paging, stage.Faultless 2) ∧
      (∀ m, (probedPlan.kernel m).2.control = m.control) ∧ (lowStage .mib4).Ready 2 ∧
      ∃ t, dispatch processor probedPlan usedStart = (.ok (), t) ∧
        t.machine.control .cr0 = 0xFFFF0011 ∧ t.machine.control .cr3 = 0x200000 ∧
        t.machine.control .cr4 = 0xFFFFF85F := by
  have exact : usedStart.machine.Exact := by
    intro r
    cases r <;> rfl
  have faultless : ∀ stage ∈ probedPlan.paging, stage.Faultless 2 := by
    rintro _ ⟨⟩
    exact lowStage_ready.2
  obtain ⟨-, -, -, t, dispatched, -, translated, -⟩ :=
    registers_at_halt probedPlan usedStart exact faultless fun _ => rfl
  exact ⟨exact, faultless, fun _ => rfl, lowStage_ready.1, t, dispatched,
    translated (lowStage .mib4) rfl lowStage_ready.1⟩

end Machine

end ProtectedBoot
