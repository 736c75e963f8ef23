import ProtectedBoot.Boot.Scripted
import ProtectedBoot.Proofs.Boot.Steps

/-!
# Every boot takes one of the five courses

The steps come together in `run_triple`: a run that goes well took a course that enters the kernel, a
run that is refused took one of the others. `dispatch` adds the kernel, where it is entered, and the
halt (`dispatch_triple`). Where nothing faults this is the whole story: which course is taken is
determined by the answers of the processor and the readiness of the paging stage, and the events of
the boot are the events of the course (`dispatch_takes_course`).
-/

namespace ProtectedBoot.Boot

open Paging (AddressSpace)
open Attempt (Triple)

variable {σ : Type} {n : Nat} {shape : TableShape} {cpu : Processor σ} {plan : Plan σ shape}
  {course : Course} {s₀ : Session σ n}

/-! ## Courses -/

namespace Course

/-- **A boot takes one course only.** -/
theorem Taken.unique {m : σ} {other : Course} (h : Taken cpu plan m n course)
    (h' : Taken cpu plan m n other) : other = course := by
  cases h <;> cases h' <;> simp_all

theorem Taken.entersKernel_iff {m : σ} (h : Taken cpu plan m n course) :
    course.entersKernel = true ↔
      cpu.answer (protectionCalls plan.table) m .protectionEnabled = .ok true ∧
      ∀ stage ∈ plan.paging, stage.Ready n ∧
        cpu.answer (callsBeforePaging plan ++ pagingCalls stage) m .pagingEnabled = .ok true := by
  cases h <;> simp_all [entersKernel]

theorem halt_not_mem_calls (course : Course) (plan : Plan σ shape) :
    Call.halt ∉ course.calls plan := by
  rcases asked : plan.paging with _ | stage <;> cases course <;>
    simp [calls, callsBeforePaging, protectionCalls, pagingCalls, asked]

/-- The halt is the last event, and there is no other. -/
theorem events_eq_append_halt (course : Course) (plan : Plan σ shape) :
    ∃ before, course.events plan = before ++ [.call .halt] ∧ Event.call .halt ∉ before := by
  refine ⟨_, rfl, ?_⟩
  rw [List.mem_append]
  rintro (called | closing)
  · obtain ⟨c, mem, same⟩ := List.mem_map.1 called
    cases same
    exact course.halt_not_mem_calls plan mem
  · split at closing <;> simp at closing

/-- The kernel is entered once or not at all. -/
theorem count_kernelEntry_events (course : Course) (plan : Plan σ shape) :
    (course.events plan).count .kernelEntry = if course.entersKernel then 1 else 0 := by
  have calls_only : ((course.calls plan).map Event.call).count .kernelEntry = 0 := by
    rw [List.count_eq_zero]
    simp
  rw [events, List.count_append, List.count_append, calls_only]
  split <;> rfl

theorem concernsPaging_of_mem_callsBeforePaging {c : Call} (mem : c ∈ callsBeforePaging plan) :
    c.concernsPaging = false := by
  simp only [callsBeforePaging, protectionCalls, List.mem_append, List.mem_cons, List.mem_map,
    List.not_mem_nil, or_false] at mem
  rcases mem with ((rfl | rfl | rfl | rfl) | rfl) | ⟨p, -, rfl⟩ <;> rfl

/-- A stage that is not ready is not begun. -/
theorem Taken.not_concernsPaging {m : σ} {stage : PagingStage} (h : Taken cpu plan m n course)
    (asked : plan.paging = some stage) (not_ready : ¬ stage.Ready n) {c : Call}
    (mem : Event.call c ∈ course.events plan) : c.concernsPaging = false := by
  have early : course.calls plan <+: callsBeforePaging plan := by
    cases h with
    | unprotected => exact List.prefix_append _ _
    | unpaged | refused => exact List.prefix_refl _
    | untranslated _ asked' ready | translated _ asked' ready =>
      rw [asked] at asked'
      cases asked'
      exact absurd ready not_ready
  simp only [events, List.mem_append, List.mem_map, Event.call.injEq, exists_eq_right,
    List.mem_singleton] at mem
  rcases mem with (called | entry) | rfl
  · exact concernsPaging_of_mem_callsBeforePaging (early.subset called)
  · split at entry <;> simp at entry
  · rfl

end Course

/-! ## A run -/

/-- **A run** that goes well took a course that enters the kernel, and counted every probe. -/
theorem run_triple (cpu : Processor σ) (plan : Plan σ shape) (s₀ : Session σ n) :
    Triple (s₀.Reached cpu [] s₀.tables) (run cpu plan)
      (fun report s => ∃ course, course.entersKernel = true ∧ Took cpu plan s₀ course s ∧
        report.probes.passed + report.probes.failed = plan.probes.length)
      (Stopped cpu plan s₀) := by
  rw [run]
  refine (enterProtectedMode_triple _).bind fun _ => Triple.assuming fun entered => ?_
  -- No probe is done yet.
  have start : protectionCalls plan.table ++ [.protectionEnabled] = callsThrough plan [] :=
    (List.append_nil _).symm
  rw [start]
  refine (probeAll_triple (List.nil_append _).symm ⟨0, 0⟩ _).bind fun tally => ?_
  refine Triple.assuming fun counted => ?_
  rw [Nat.add_zero, Nat.zero_add] at counted
  rcases asked : plan.paging with _ | stage
  · refine Triple.pure fun s h => ?_
    exact ⟨.unpaged, rfl, ⟨.unpaged entered asked, .before (List.prefix_refl _), h.here⟩, counted⟩
  · refine (performStage_triple asked entered).bind fun summary => ?_
    exact Triple.pure fun s took => ⟨.translated, rfl, took, counted⟩

/-- **The machine that a run leaves** is what its calls made of it, whichever way the run went. -/
theorem run_reached (cpu : Processor σ) (plan : Plan σ shape) (s₀ : Session σ n) :
    ∃ calls, plan.Allows (run cpu plan s₀).2.tables calls ∧
      s₀.Reached cpu calls (run cpu plan s₀).2.tables (run cpu plan s₀).2 := by
  rcases (run_triple cpu plan s₀).ends (.start cpu s₀) with
    ⟨report, s, ran, course, -, took, -⟩ | ⟨e, s, ran, stopped⟩
  · rw [ran]
    exact ⟨_, took.allowed, took.reached⟩
  · rw [ran]
    cases stopped with
    | refused aborts took => exact ⟨_, took.allowed, took.reached⟩
    | fault faulty allowed reached => exact ⟨_, allowed, reached⟩

/-! ## The boot -/

/-- What a boot has left behind before it halts. -/
structure Closing (cpu : Processor σ) (plan : Plan σ shape) (s₀ : Session σ n) (course : Course)
    (s : Session σ n) : Prop where
  taken : Course.Taken cpu plan s₀.machine n course
  allowed : plan.Allows s.tables (course.calls plan)
  events : s.events = s₀.events ++ ((course.calls plan).map .call ++
    if course.entersKernel then [.kernelEntry] else [])

/-- What a boot has left behind when it is over: all events of its course. -/
structure Finished (cpu : Processor σ) (plan : Plan σ shape) (s₀ : Session σ n) (course : Course)
    (s : Session σ n) : Prop where
  taken : Course.Taken cpu plan s₀.machine n course
  allowed : plan.Allows s.tables (course.calls plan)
  events : s.events = s₀.events ++ course.events plan

/-- What a boot has left behind, be it over or cut short by a fault: calls that are allowed, and
behind them no call but the halt. -/
def Plan.Leaves (plan : Plan σ shape) (s₀ s : Session σ n) : Prop :=
  ∃ calls closing, plan.Allows s.tables calls ∧ (∀ c, Event.call c ∈ closing → c = .halt) ∧
    s.events = s₀.events ++ (calls.map .call ++ closing)

theorem Finished.leaves {s : Session σ n} (h : Finished cpu plan s₀ course s) : plan.Leaves s₀ s := by
  have events := h.events
  rw [Course.events, List.append_assoc] at events
  refine ⟨course.calls plan, _, h.allowed, fun c mem => ?_, events⟩
  rw [List.mem_append] at mem
  rcases mem with entry | halt
  · split at entry <;> simp at entry
  · simpa using halt

section Ends

variable {E : Stop BootError → Session σ n → Prop}

theorem launch_triple (enters : course.entersKernel = true) (report : Report) :
    Triple (Took cpu plan s₀ course) (launch plan report) (fun _ => Closing cpu plan s₀ course) E := by
  intro s took
  show Closing cpu plan s₀ course _
  refine ⟨took.taken, took.allowed, ?_⟩
  show s.events ++ [.kernelEntry] = _
  rw [took.reached.events, if_pos enters, List.append_assoc]

theorem abort_triple (aborts : course.entersKernel = false) (reason : BootError) :
    Triple (Took cpu plan s₀ course) (abort reason) (fun _ => Closing cpu plan s₀ course) E := by
  intro s took
  show Closing cpu plan s₀ course _
  refine ⟨took.taken, took.allowed, ?_⟩
  show s.events = _
  rw [took.reached.events, if_neg (by rw [aborts]; decide), List.append_nil]

/-- The halt, on whichever machine the kernel left. -/
theorem halt_triple :
    Triple (Closing cpu plan s₀ course) (call cpu .halt) (fun _ => Finished cpu plan s₀ course)
      (fun _ s => ¬ plan.Faultless cpu n ∧ plan.Leaves s₀ s) := by
  intro s closing
  have finished : Finished cpu plan s₀ course (call cpu .halt s).2 := by
    refine ⟨closing.taken, closing.allowed, ?_⟩
    show s.events ++ [.call .halt] = _
    rw [closing.events, Course.events, List.append_assoc]
  have result : (call (n := n) cpu .halt s).1 = (cpu.perform .halt s.machine).1.mapError .fault := rfl
  generalize call cpu .halt s = outcome at finished result
  rcases outcome with ⟨e | a, s'⟩
  · refine ⟨fun faultless => ?_, finished.leaves⟩
    obtain ⟨a, carried⟩ := faultless.1 .halt s.machine
    rw [carried] at result
    cases result
  · exact finished

end Ends

/-- **A boot** comes to the end of a course, or something faults. -/
theorem dispatch_triple (cpu : Processor σ) (plan : Plan σ shape) (s₀ : Session σ n) :
    Triple (s₀.Reached cpu [] s₀.tables) (dispatch cpu plan)
      (fun _ s => ∃ course, Finished cpu plan s₀ course s)
      (fun _ s => ¬ plan.Faultless cpu n ∧ plan.Leaves s₀ s) := by
  have ran : Triple (s₀.Reached cpu [] s₀.tables) (Attempt.settle (run cpu plan))
      (fun r s => ∃ course, course.entersKernel = r.isOk ∧ Took cpu plan s₀ course s)
      (fun _ s => ¬ plan.Faultless cpu n ∧ plan.Leaves s₀ s) := by
    refine (run_triple cpu plan s₀).settle ?_ ?_ ?_
    · rintro report s ⟨course, enters, took, -⟩
      exact ⟨course, enters, took⟩
    · rintro reason s ⟨aborts, took⟩
      exact ⟨_, aborts, took⟩
    · rintro f s (_ | ⟨faulty, allowed, reached⟩)
      refine ⟨faulty, _, [], allowed, by simp, ?_⟩
      rw [reached.events, List.append_nil]
  rw [dispatch]
  refine ran.bind fun r => Triple.forSome fun course => Triple.assuming fun outcome => ?_
  have halted : Triple (Closing cpu plan s₀ course) (call cpu .halt)
      (fun _ s => ∃ course, Finished cpu plan s₀ course s)
      (fun _ s => ¬ plan.Faultless cpu n ∧ plan.Leaves s₀ s) :=
    halt_triple.weaken fun _ _ finished => ⟨course, finished⟩
  cases r with
  | ok report => exact (launch_triple outcome report).bind fun _ => halted
  | error reason => exact (abort_triple outcome reason).bind fun _ => halted

/-- What a boot does behind its run shows in no call but the halt, and not in the page tables. -/
theorem dispatch_after_run (cpu : Processor σ) (plan : Plan σ shape) (s : Session σ n) :
    (dispatch cpu plan s).2.tables = (run cpu plan s).2.tables ∧
      ∃ closing, (∀ c, Event.call c ∈ closing → c = .halt) ∧
        (dispatch cpu plan s).2.events = (run cpu plan s).2.events ++ closing := by
  rw [dispatch, Attempt.bind_apply, Attempt.settle]
  rcases run cpu plan s with ⟨(reason | f) | report, u⟩
  · exact ⟨rfl, [.call .halt], by simp, rfl⟩
  · exact ⟨rfl, [], by simp, (List.append_nil _).symm⟩
  · refine ⟨rfl, [.kernelEntry, .call .halt], by simp, ?_⟩
    show u.events ++ [.kernelEntry] ++ [.call .halt] = u.events ++ [.kernelEntry, .call .halt]
    rw [List.append_assoc]
    rfl

/-- Which way a run goes is a matter of the course. -/
theorem run_isOk (faultless : plan.Faultless cpu n)
    (taken : Course.Taken cpu plan s₀.machine n course) :
    (run cpu plan s₀).1.isOk = course.entersKernel := by
  rcases (run_triple cpu plan s₀).ends (.start cpu s₀) with ⟨report, s, ran, other, enters, took, -⟩ |
    ⟨e, s, ran, stopped⟩
  · rw [ran, ← taken.unique took.taken, enters]
    rfl
  · cases stopped with
    | refused aborts took =>
      rw [ran, ← taken.unique took.taken, aborts]
      rfl
    | fault faulty => exact absurd faultless faulty

/-- **Every boot takes one of the courses to its end.** On a processor that carries out every call,
whatever it answers, and with a paging stage, if any, whose build does not fault, exactly one course
fits the answers, and the events of the boot are the events of this course. The kernel is entered once
or not at all, and it is entered if and only if the processor entered protected mode and, where paging
is asked for, the stage is ready and the processor turned paging on; the halt comes last and only
there; a stage that is not ready is not begun; and a run that goes well has counted every probe. -/
theorem dispatch_takes_course (dependable : cpu.Dependable)
    (faultless : ∀ stage ∈ plan.paging, stage.Faultless n) (s : Session σ n) :
    ∃ course, (∀ other, Course.Taken cpu plan s.machine n other ↔ other = course) ∧
      (dispatch cpu plan s).1 = .ok () ∧
      (dispatch cpu plan s).2.events = s.events ++ course.events plan ∧
      (course.events plan).count .kernelEntry = (if course.entersKernel then 1 else 0) ∧
      (course.entersKernel = true ↔
        cpu.answer (protectionCalls plan.table) s.machine .protectionEnabled = .ok true ∧
        ∀ stage ∈ plan.paging, stage.Ready n ∧
          cpu.answer (callsBeforePaging plan ++ pagingCalls stage) s.machine .pagingEnabled =
            .ok true) ∧
      (∃ before, course.events plan = before ++ [.call .halt] ∧ Event.call .halt ∉ before) ∧
      (∀ stage ∈ plan.paging, ¬ stage.Ready n →
        ∀ c, Event.call c ∈ course.events plan → c.concernsPaging = false) ∧
      (run cpu plan s).1.isOk = course.entersKernel ∧
      ∀ report u, run cpu plan s = (.ok report, u) →
        report.probes.passed + report.probes.failed = plan.probes.length := by
  rcases (dispatch_triple cpu plan s).ends (.start cpu s) with ⟨_, u, ran, course, finished⟩ |
    ⟨e, u, ran, faulty, -⟩
  · have taken := finished.taken
    refine ⟨course, ?only, ?ends, ?events, course.count_kernelEntry_events plan,
      taken.entersKernel_iff, course.events_eq_append_halt plan, ?begun,
      run_isOk ⟨dependable, faultless⟩ taken, ?counted⟩
    case only =>
      intro other
      constructor
      · exact taken.unique
      · rintro rfl
        exact taken
    case ends => rw [ran]
    case events =>
      rw [ran]
      exact finished.events
    case begun =>
      intro stage asked not_ready c
      exact taken.not_concernsPaging asked not_ready
    case counted =>
      intro report w good
      obtain ⟨-, -, -, counted⟩ := (run_triple cpu plan s).of_ok (.start cpu s) good
      exact counted
  · exact absurd ⟨dependable, faultless⟩ faulty

/-- Paging is turned on by code in low memory, with one page table. -/
def smallStage : PagingStage := ⟨⟨0x200000⟩, Paging.tightConfig, [⟨0x1FFF⟩]⟩

/-- A plan with two probes and a paging stage. -/
def smallPlan : Plan Script .kernelOnly where
  table := ⟨.flat .kernelOnly, ⟨23, 0x8000⟩, by rfl, by rfl⟩
  probes := [⟨"low", ⟨0x1000⟩⟩, ⟨"screen", ⟨Platform.textBuffer⟩⟩]
  paging := some smallStage
  kernel := fun s => ([], s)

/-- A processor that does as it is told, with a hole in the memory, and one page table. -/
def smallStart : Session Script 1 := .start ⟨false, false, true, true, [⟨0x1000⟩]⟩ 0

theorem scripted_dependable : scripted.Dependable := by
  intro c s
  cases c <;> exact ⟨_, rfl⟩

theorem smallStage_builds :
    (Paging.build smallStage.base smallStage.config (.empty 1)).1.isOk = true := by
  decide +kernel

theorem smallStage_ready : smallStage.Ready 1 := by
  have builds := smallStage_builds
  rcases run : Paging.build smallStage.base smallStage.config (.empty 1) with ⟨e | r, u⟩
  · rw [run] at builds
    cases builds
  · refine (PagingStage.ready_iff run).2 fun a kept => ?_
    rw [List.mem_singleton.1 kept]
    exact Paging.translate_low_of_build run (by decide)

theorem smallPlan_translated :
    (dispatch scripted smallPlan smallStart).2.events = Course.translated.events smallPlan ∧
      ∃ report u, run scripted smallPlan smallStart = (.ok report, u) ∧
        report.probes.passed + report.probes.failed = 2 := by
  have faultless : ∀ stage ∈ smallPlan.paging, stage.Faultless 1 := by
    intro stage asked f fault
    cases asked
    have builds := smallStage_builds
    rw [fault] at builds
    cases builds
  obtain ⟨course, only, -, events, -, -, -, -, good, counted⟩ :=
    dispatch_takes_course scripted_dependable faultless smallStart
  obtain rfl := (only .translated).1 (.translated rfl rfl smallStage_ready rfl)
  refine ⟨events, ?_⟩
  rcases ran : run scripted smallPlan smallStart with ⟨e | report, u⟩
  · rw [ran] at good
    cases good
  · exact ⟨report, u, rfl, counted report u ran⟩

end ProtectedBoot.Boot
