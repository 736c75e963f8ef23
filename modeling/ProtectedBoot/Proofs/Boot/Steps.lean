import ProtectedBoot.Boot.Course
import ProtectedBoot.Proofs.Paging.BootSpace

/-!
# The steps of a boot

A run is followed by the calls that it made. `Session.Reached` says how far a session has come: the
processor has been called so often and nothing else has happened to it, so its state is what the calls
made of it. `Plan.Allows` says how far a session may come: through the paging stage only with page
tables that are ready. Each step of the sequence leads from one list of calls to a longer one
(`load_triple`, `probeAll_triple`, `turnPagingOn_triple`, …); where a step ends the run, it leaves one
of the courses behind it, or there was a fault (`Stopped`).

Messages, records and the board do not show in any of this.
-/

namespace ProtectedBoot.Boot

open Paging (AddressSpace)
open Attempt (Triple)

variable {σ : Type} {n : Nat} {shape : TableShape} {cpu : Processor σ} {plan : Plan σ shape}
  {stage : PagingStage} {t u : AddressSpace n} {calls : List Call} {s₀ : Session σ n}

theorem Processor.after_append (cpu : Processor σ) (calls : List Call) (c : Call) (m : σ) :
    cpu.after (calls ++ [c]) m = (cpu.perform c (cpu.after calls m)).2 := by
  simp only [after, List.foldl_append, List.foldl_cons, List.foldl_nil]

/-! ## Readiness -/

/-- What is built with tables in use is built with none. -/
theorem PagingStage.build_fresh {r : Paging.PagingSummary × Log.Record}
    (done : Paging.build stage.base stage.config t = (.ok r, u)) :
    Paging.build stage.base stage.config (.empty n) = (.ok r, u) := by
  rcases Paging.build_forgets stage.base stage.config t (.empty n) with same | ⟨a, refused, -⟩
  · rw [← same, done]
  · rw [done] at refused
    cases refused

/-- What stops a build with tables in use stops it with none. -/
theorem PagingStage.build_stops {e : Stop Paging.PagingError}
    (stopped : Paging.build stage.base stage.config t = (.error e, u)) :
    (Paging.build stage.base stage.config (.empty n)).1 = .error e := by
  rcases Paging.build_forgets stage.base stage.config t (.empty n) with same | ⟨a, first, second⟩
  · rw [← same, stopped]
  · rw [stopped] at first
    cases first
    rw [second]

/-- Whether a stage is ready shows in the page tables that are built for it. -/
theorem PagingStage.ready_iff {r : Paging.PagingSummary × Log.Record}
    (done : Paging.build stage.base stage.config t = (.ok r, u)) :
    stage.Ready n ↔ ∀ a ∈ stage.keepMapped, u.translate (a.recast .virtual) = .ok (some a) := by
  have fresh := PagingStage.build_fresh done
  constructor
  · rintro ⟨w, ⟨r', built⟩, kept⟩
    rw [fresh] at built
    cases built
    exact kept
  · intro kept
    exact ⟨u, ⟨r, fresh⟩, kept⟩

/-- The search for an address that is not mapped to itself answers, and its answer is right. -/
theorem firstMoved_of_wellFormed (wf : t.WellFormed) (l : List PhysAddr) :
    (firstMoved t l = .ok none ∧ ∀ a ∈ l, t.translate (a.recast .virtual) = .ok (some a)) ∨
      ∃ a ∈ l, firstMoved t l = .ok (some a) ∧ t.translate (a.recast .virtual) ≠ .ok (some a) := by
  induction l with
  | nil => exact .inl ⟨rfl, by simp⟩
  | cons a rest ih =>
    obtain ⟨found, translated⟩ := AddressSpace.exists_translate wf (a.recast .virtual)
    have answer : t.identityMaps a = .ok (found == some a) := by
      rw [AddressSpace.identityMaps, translated]
      rfl
    have first : firstMoved t (a :: rest) =
        if found == some a then firstMoved t rest else .ok (some a) := by
      rw [firstMoved, answer]
      rfl
    by_cases stays : found = some a
    · rw [if_pos (by simpa using stays)] at first
      rcases ih with ⟨none_moved, kept⟩ | ⟨b, mem, moved, other⟩
      · refine .inl ⟨first.trans none_moved, ?_⟩
        rw [List.forall_mem_cons]
        exact ⟨stays ▸ translated, kept⟩
      · exact .inr ⟨b, List.mem_cons_of_mem _ mem, first.trans moved, other⟩
    · rw [if_neg (by simpa using stays)] at first
      refine .inr ⟨a, List.mem_cons_self, first, ?_⟩
      rw [translated]
      simpa using stays

/-- **Preparing a stage** changes the page tables and the log, and nothing else. It leaves tables with
which the stage is ready, or the stage is refused, or building its tables faults. -/
theorem prepare_ends (stage : PagingStage) (s : Session σ n) :
    (∃ summary u logs, prepare stage s = (.ok summary, { s with tables := u, logs }) ∧
      stage.ReadyWith u) ∨
    (∃ reason u logs, prepare stage s = (.error (.refused reason), { s with tables := u, logs }) ∧
      stage.RefusedFor n reason) ∨
    ∃ f u logs, prepare stage s = (.error (.fault f), { s with tables := u, logs }) ∧
      ¬ stage.Faultless n := by
  rcases done : Paging.build stage.base stage.config s.tables with
    ⟨(cause | f) | ⟨summary, record⟩, u⟩
  · have not_ready : ¬ stage.Ready n := by
      rintro ⟨w, ⟨r, built⟩, -⟩
      have stops := PagingStage.build_stops done
      rw [built] at stops
      cases stops
    refine .inr (.inl ⟨.paging cause, u, s.logs, ?_, not_ready, .inl ⟨cause, rfl⟩⟩)
    rw [prepare, Attempt.bind_apply, onTables, done]
  · refine .inr (.inr ⟨f, u, s.logs, ?_, fun faultless => faultless f (PagingStage.build_stops done)⟩)
    rw [prepare, Attempt.bind_apply, onTables, done]
  · rcases firstMoved_of_wellFormed (Paging.sound_of_build done).wellFormed stage.keepMapped with
      ⟨none_moved, kept⟩ | ⟨a, mem, moved, other⟩
    · refine .inl ⟨summary, u, s.logs ++ [record], ?_, ⟨_, PagingStage.build_fresh done⟩, kept⟩
      -- The check looks at the tables that were just built.
      rw [prepare, Attempt.bind_apply, onTables, done]
      show (Attempt.ofFaulting (firstMoved u stage.keepMapped) >>= _ : Step σ n _) _ = _
      rw [none_moved]
      rfl
    · have not_ready : ¬ stage.Ready n := fun ready =>
        other ((PagingStage.ready_iff done).1 ready a mem)
      refine .inr (.inl ⟨_, u, s.logs ++ [record], ?_, not_ready, .inr ⟨a, mem, rfl⟩⟩)
      rw [prepare, Attempt.bind_apply, onTables, done]
      show (Attempt.ofFaulting (firstMoved u stage.keepMapped) >>= _ : Step σ n _) _ = _
      rw [moved]
      rfl

/-! ## How far a session has come, and may come -/

/-- The processor has been called `calls`, one after the other, and the page tables are `t`. -/
structure Session.Reached (s₀ : Session σ n) (cpu : Processor σ) (calls : List Call)
    (t : AddressSpace n) (s : Session σ n) : Prop where
  machine : s.machine = cpu.after calls s₀.machine
  events : s.events = s₀.events ++ calls.map .call
  tables : s.tables = t

/-- A plan may lead to `calls` while the page tables are `t`. -/
inductive Plan.Allows (plan : Plan σ shape) (t : AddressSpace n) (calls : List Call) : Prop where
  /-- Any tables do until the paging stage. -/
  | before : calls <+: callsBeforePaging plan → Allows plan t calls
  /-- The paging stage demands tables that are ready. -/
  | through {stage : PagingStage} : plan.paging = some stage → stage.ReadyWith t →
      calls <+: callsBeforePaging plan ++ pagingCalls stage ++ [.pagingEnabled] → Allows plan t calls

/-- Nothing faults: the processor carries out every call, and the page tables can be built or are
refused. -/
def Plan.Faultless (plan : Plan σ shape) (cpu : Processor σ) (n : Nat) : Prop :=
  cpu.Dependable ∧ ∀ stage ∈ plan.paging, stage.Faultless n

/-- The session took a course, up to where the kernel is entered or the boot aborted. -/
structure Took (cpu : Processor σ) (plan : Plan σ shape) (s₀ : Session σ n) (course : Course)
    (s : Session σ n) : Prop where
  taken : Course.Taken cpu plan s₀.machine n course
  allowed : plan.Allows s.tables (course.calls plan)
  reached : s₀.Reached cpu (course.calls plan) s.tables s

/-- How a run ends before its time. -/
inductive Stopped (cpu : Processor σ) (plan : Plan σ shape) (s₀ : Session σ n) :
    Stop BootError → Session σ n → Prop where
  /-- A course came to its end. -/
  | refused {reason : BootError} {course : Course} {s : Session σ n} :
      course.entersKernel = false → Took cpu plan s₀ course s → Stopped cpu plan s₀ (.refused reason) s
  /-- Something faulted, at the last call or behind it. -/
  | fault {f : Fault} {calls : List Call} {s : Session σ n} :
      ¬ plan.Faultless cpu n → plan.Allows s.tables calls → s₀.Reached cpu calls s.tables s →
      Stopped cpu plan s₀ (.fault f) s

theorem Session.Reached.start (cpu : Processor σ) (s₀ : Session σ n) :
    s₀.Reached cpu [] s₀.tables s₀ :=
  ⟨rfl, (List.append_nil _).symm, rfl⟩

theorem Session.Reached.here {s : Session σ n} (h : s₀.Reached cpu calls t s) :
    s₀.Reached cpu calls s.tables s :=
  ⟨h.machine, h.events, rfl⟩

/-! ## One call -/

/-- **A call** makes the list of calls longer by one, whether or not the processor carries it out. -/
theorem call_triple {c : Call} (allowed : plan.Allows t (calls ++ [c])) :
    Triple (s₀.Reached cpu calls t) (call cpu c)
      (fun a s => cpu.answer calls s₀.machine c = .ok a ∧ s₀.Reached cpu (calls ++ [c]) t s)
      (Stopped cpu plan s₀) := by
  intro s reached
  have answered : (cpu.perform c s.machine).1 = cpu.answer calls s₀.machine c := by
    rw [Processor.answer, reached.machine]
  have next : s₀.Reached cpu (calls ++ [c]) t (call cpu c s).2 := {
    machine := by
      rw [Processor.after_append, ← reached.machine]
      rfl
    events := by
      show s.events ++ [.call c] = _
      rw [reached.events, List.map_append, List.append_assoc]
      rfl
    tables := reached.tables }
  have result : (call cpu c s).1 = (cpu.answer calls s₀.machine c).mapError .fault := by
    rw [← answered]
    rfl
  -- The call is among the events whichever way it goes; only its answer makes a difference.
  generalize call cpu c s = outcome at next result
  rcases outcome with ⟨e | a, s'⟩
  · rcases fault : cpu.answer calls s₀.machine c with f | a
    · rw [fault] at result
      cases result
      have same := next.tables
      subst same
      refine .fault (fun faultless => ?_) allowed next
      obtain ⟨a, carried⟩ := faultless.1 c s.machine
      rw [answered, fault] at carried
      cases carried
    · rw [fault] at result
      cases result
  · exact ⟨mapError_eq_ok_iff.1 result.symm, next⟩

/-- A call whose answer does not matter. -/
theorem tell_triple {c : Call} (allowed : plan.Allows t (calls ++ [c])) :
    Triple (s₀.Reached cpu calls t) (call cpu c) (fun _ => s₀.Reached cpu (calls ++ [c]) t)
      (Stopped cpu plan s₀) :=
  (call_triple allowed).weaken fun _ _ h => h.2

theorem append_triple (records : List Log.Record) {E : Stop BootError → Session σ n → Prop} :
    Triple (s₀.Reached cpu calls t) (append records) (fun _ => s₀.Reached cpu calls t) E :=
  Triple.update fun _ h => ⟨h.machine, h.events, h.tables⟩

theorem display_triple (label : String) (ok : Bool) {E : Stop BootError → Session σ n → Prop} :
    Triple (s₀.Reached cpu calls t) (display label ok) (fun _ => s₀.Reached cpu calls t) E :=
  Triple.update fun _ h => ⟨h.machine, h.events, h.tables⟩

theorem Plan.Allows.shorten {l : List Call} (h : plan.Allows t l) (le : calls <+: l) :
    plan.Allows t calls := by
  cases h with
  | before l_le => exact .before (le.trans l_le)
  | through asked ready l_le => exact .through asked ready (le.trans l_le)

/-! ## Protected mode -/

theorem load_triple (t : AddressSpace n) :
    Triple (s₀.Reached cpu [] t) (load cpu plan.table)
      (fun _ => s₀.Reached cpu (protectionCalls plan.table) t) (Stopped cpu plan s₀) := by
  have whole : plan.Allows t (protectionCalls plan.table) :=
    .before ((List.prefix_append _ _).trans (List.prefix_append _ _))
  rw [load]
  refine (tell_triple (whole.shorten ⟨_, rfl⟩)).bind fun _ => ?_
  refine (tell_triple (whole.shorten ⟨_, rfl⟩)).bind fun _ => ?_
  refine (tell_triple (whole.shorten ⟨_, rfl⟩)).bind fun _ => ?_
  refine (tell_triple (whole.shorten ⟨_, rfl⟩)).bind fun _ => ?_
  refine (append_triple _).bind fun _ => ?_
  exact Triple.pure fun _ h => h

theorem enterProtectedMode_triple (t : AddressSpace n) :
    Triple (s₀.Reached cpu [] t) (enterProtectedMode cpu plan.table)
      (fun _ s => cpu.answer (protectionCalls plan.table) s₀.machine .protectionEnabled = .ok true ∧
        s₀.Reached cpu (protectionCalls plan.table ++ [.protectionEnabled]) t s)
      (Stopped cpu plan s₀) := by
  have whole : plan.Allows t (protectionCalls plan.table ++ [.protectionEnabled]) :=
    .before (List.prefix_append _ _)
  rw [enterProtectedMode]
  refine (load_triple t).bind fun _ => ?_
  refine (display_triple _ _).bind fun _ => ?_
  refine (call_triple whole).bind fun answer => Triple.assuming fun answered => ?_
  cases answer with
  | true =>
    refine (append_triple _).bind fun _ => (display_triple _ _).weaken fun _ _ h => ⟨answered, h⟩
  | false =>
    refine Triple.refuse fun s h => ?_
    obtain rfl := h.tables
    have took : Took cpu plan s₀ .unprotected s := ⟨.unprotected answered, whole, h⟩
    exact .refused rfl took

/-! ## Probes -/

theorem Tally.passed_add_failed_count (t : Tally) (ok : Bool) :
    (t.count ok).passed + (t.count ok).failed = t.passed + t.failed + 1 := by
  cases ok
  · exact (Nat.add_assoc ..).symm
  · exact Nat.add_right_comm ..

theorem probe_triple {p : Probe} (allowed : plan.Allows t (calls ++ [.probe p.address])) :
    Triple (s₀.Reached cpu calls t) (probe cpu p)
      (fun _ => s₀.Reached cpu (calls ++ [.probe p.address]) t) (Stopped cpu plan s₀) := by
  rw [probe]
  refine (tell_triple allowed).bind fun ok => ?_
  have told (message : Step σ n Unit)
      (silent : Triple (s₀.Reached cpu (calls ++ [.probe p.address]) t) message
        (fun _ => s₀.Reached cpu (calls ++ [.probe p.address]) t) (Stopped cpu plan s₀)) :
      Triple (s₀.Reached cpu (calls ++ [.probe p.address]) t)
        (do message; display p.label ok; return ok)
        (fun _ => s₀.Reached cpu (calls ++ [.probe p.address]) t) (Stopped cpu plan s₀) :=
    silent.bind fun _ => (display_triple _ _).bind fun _ => Triple.pure fun _ h => h
  cases ok with
  | true => exact told _ (append_triple _)
  | false => exact told _ (append_triple _)

/-- The calls of a plan up to the paging stage, when `done` are the probes so far. -/
def callsThrough (plan : Plan σ shape) (done : List Probe) : List Call :=
  protectionCalls plan.table ++ [.protectionEnabled] ++ done.map fun p => .probe p.address

theorem callsThrough_concat (plan : Plan σ shape) (done : List Probe) (p : Probe) :
    callsThrough plan (done ++ [p]) = callsThrough plan done ++ [.probe p.address] := by
  rw [callsThrough, List.map_append, ← List.append_assoc]
  rfl

theorem allows_callsThrough {done rest : List Probe} (all : plan.probes = done ++ rest)
    (t : AddressSpace n) : plan.Allows t (callsThrough plan done) := by
  refine .before ?_
  rw [callsBeforePaging, all]
  exact (List.prefix_append_right_inj _).2 ((List.prefix_append _ _).map _)

/-- **Probes**, some of which are done. Each is called in its turn, whatever the others found, and
each is counted. -/
theorem probeAll_triple {done rest : List Probe} (all : plan.probes = done ++ rest) (tally : Tally)
    (t : AddressSpace n) :
    Triple (s₀.Reached cpu (callsThrough plan done) t) (probeAll cpu tally rest)
      (fun r s => r.passed + r.failed = tally.passed + tally.failed + rest.length ∧
        s₀.Reached cpu (callsBeforePaging plan) t s)
      (Stopped cpu plan s₀) := by
  -- Along the list, a probe moves from those that remain to those that are done.
  induction rest generalizing done tally with
  | nil =>
    rw [List.append_nil] at all
    rw [← all]
    exact Triple.pure fun s h => ⟨rfl, h⟩
  | cons p rest ih =>
    have all' : plan.probes = (done ++ [p]) ++ rest := by
      rw [all, List.append_assoc]
      rfl
    have allowed := allows_callsThrough all' t
    rw [callsThrough_concat] at allowed
    rw [probeAll]
    refine (probe_triple allowed).bind fun ok => ?_
    rw [← callsThrough_concat]
    refine (ih all' (tally.count ok)).weaken fun r s => ?_
    rw [Tally.passed_add_failed_count]
    rintro ⟨count, reached⟩
    exact ⟨by rw [count, List.length_cons]; omega, reached⟩

/-! ## The paging stage -/

section Stage

variable (asked : plan.paging = some stage)
  (entered : cpu.answer (protectionCalls plan.table) s₀.machine .protectionEnabled = .ok true)

include asked

/-- The calls of a boot that goes through the paging stage. -/
theorem calls_of_paging {course : Course} (through : course = .untranslated ∨ course = .translated) :
    course.calls plan = callsBeforePaging plan ++ pagingCalls stage ++ [.pagingEnabled] := by
  rcases through with rfl | rfl <;> rw [Course.calls, asked] <;> rfl

theorem refused_of_not_ready (not_ready : ¬ stage.Ready n) {reason : BootError} {s : Session σ n}
    (entered : cpu.answer (protectionCalls plan.table) s₀.machine .protectionEnabled = .ok true)
    (reached : s₀.Reached cpu (callsBeforePaging plan) s.tables s) :
    Stopped cpu plan s₀ (.refused reason) s := by
  have took : Took cpu plan s₀ .refused s :=
    ⟨.refused entered asked not_ready, .before (List.prefix_refl _), reached⟩
  exact .refused rfl took

include entered

/-- **Preparing the stage** leaves page tables with which it is ready, unless it is not ready with
any. -/
theorem prepare_triple :
    Triple (s₀.Reached cpu (callsBeforePaging plan) t) (prepare stage)
      (fun _ s => ∃ u, stage.ReadyWith u ∧ s₀.Reached cpu (callsBeforePaging plan) u s)
      (Stopped cpu plan s₀) := by
  intro s reached
  have left (u : AddressSpace n) (logs : List Log.Record) :
      s₀.Reached cpu (callsBeforePaging plan) u { s with tables := u, logs } :=
    ⟨reached.machine, reached.events, rfl⟩
  rcases prepare_ends stage s with ⟨summary, u, logs, ran, ready⟩ |
    ⟨reason, u, logs, ran, not_ready, -⟩ | ⟨f, u, logs, ran, faulty⟩
  · rw [ran]
    exact ⟨u, ready, left u logs⟩
  · rw [ran]
    exact refused_of_not_ready asked not_ready entered (left u logs)
  · rw [ran]
    refine .fault (fun faultless => ?_) (.before (List.prefix_refl _)) (left u logs)
    exact faulty (faultless.2 stage asked)

/-- The last call that turns paging on, and the question whether it did. -/
theorem enablePaging_triple (ready : stage.ReadyWith u)
    (last : calls ++ [.enablePaging] = callsBeforePaging plan ++ pagingCalls stage) :
    Triple (s₀.Reached cpu calls u)
      (do
        call cpu .enablePaging
        if !(← call cpu .pagingEnabled) then Attempt.refuse .pagingNotEnabled)
      (fun _ s =>
        cpu.answer (callsBeforePaging plan ++ pagingCalls stage) s₀.machine .pagingEnabled =
          .ok true ∧
        s₀.Reached cpu (callsBeforePaging plan ++ pagingCalls stage ++ [.pagingEnabled]) u s)
      (Stopped cpu plan s₀) := by
  have whole : plan.Allows u (callsBeforePaging plan ++ pagingCalls stage ++ [.pagingEnabled]) :=
    .through asked ready (List.prefix_refl _)
  refine (tell_triple (whole.shorten ⟨_, by rw [last]⟩)).bind fun _ => ?_
  rw [last]
  refine (call_triple whole).bind fun answer => Triple.assuming fun answered => ?_
  cases answer with
  | true => exact Triple.pure fun s h => ⟨answered, h⟩
  | false =>
    refine Triple.refuse fun s h => ?_
    obtain rfl := h.tables
    rw [← calls_of_paging asked (.inl rfl)] at whole h
    exact .refused rfl ⟨.untranslated entered asked ⟨_, ready⟩ answered, whole, h⟩

/-- **Turning paging on**, with page tables that are ready. -/
theorem turnPagingOn_triple (ready : stage.ReadyWith u) :
    Triple (s₀.Reached cpu (callsBeforePaging plan) u) (turnPagingOn cpu stage)
      (fun _ s =>
        cpu.answer (callsBeforePaging plan ++ pagingCalls stage) s₀.machine .pagingEnabled =
          .ok true ∧
        s₀.Reached cpu (callsBeforePaging plan ++ pagingCalls stage ++ [.pagingEnabled]) u s)
      (Stopped cpu plan s₀) := by
  have allowed {l : List Call} (le : l <+: callsBeforePaging plan ++ pagingCalls stage) :
      plan.Allows u l :=
    .through asked ready (le.trans (List.prefix_append _ _))
  have install : callsBeforePaging plan ++ [.installDirectory stage.base] <+:
      callsBeforePaging plan ++ pagingCalls stage :=
    (List.prefix_append_right_inj _).2 ⟨_, rfl⟩
  obtain ⟨r, built⟩ := ready.built
  have at_base := Paging.base_of_build built
  have look : Triple (s₀.Reached cpu (callsBeforePaging plan) u) (Attempt.state : Step σ n _)
      (fun s' s => s'.tables.base = stage.base ∧ s₀.Reached cpu (callsBeforePaging plan) u s)
      (Stopped cpu plan s₀) :=
    Triple.state fun s h => ⟨by rw [h.tables, at_base], h⟩
  rw [turnPagingOn]
  refine look.bind fun s' => Triple.assuming fun same => ?_
  rw [same]
  refine (tell_triple (allowed install)).bind fun _ => ?_
  by_cases large : stage.config.pageSize = .mib4
  · have all : callsBeforePaging plan ++ [.installDirectory stage.base] ++ [.enableLargePages] ++
        [.enablePaging] = callsBeforePaging plan ++ pagingCalls stage := by
      simp [pagingCalls, large]
    rw [if_pos large]
    refine (tell_triple (allowed ⟨_, all⟩)).bind fun _ => ?_
    exact enablePaging_triple asked entered ready all
  · have all : callsBeforePaging plan ++ [.installDirectory stage.base] ++ [.enablePaging] =
        callsBeforePaging plan ++ pagingCalls stage := by
      simp [pagingCalls, large]
    rw [if_neg large]
    exact enablePaging_triple asked entered ready all

/-- **The whole stage.** -/
theorem performStage_triple :
    Triple (s₀.Reached cpu (callsBeforePaging plan) t) (performStage cpu stage)
      (fun _ => Took cpu plan s₀ .translated) (Stopped cpu plan s₀) := by
  rw [performStage]
  refine (prepare_triple asked entered).bind fun summary => ?_
  refine Triple.forSome fun u => Triple.assuming fun ready => ?_
  refine (turnPagingOn_triple asked entered ready).bind fun _ => Triple.assuming fun answered => ?_
  refine (append_triple _).bind fun _ => (display_triple _ _).bind fun _ => ?_
  refine Triple.pure fun s h => ?_
  obtain rfl := h.tables
  rw [← calls_of_paging asked (.inr rfl)] at h
  refine ⟨.translated entered asked ⟨_, ready⟩ answered, .through asked ready ?_, h⟩
  rw [calls_of_paging asked (.inr rfl)]

end Stage

end ProtectedBoot.Boot
