import ProtectedBoot.Boot.Notices
import ProtectedBoot.Boot.Scripted
import ProtectedBoot.Proofs.Boot.Course
import ProtectedBoot.Proofs.Screen.Rows

/-!
# Whether an aborted boot shows why

A boot that is aborted puts its notices on the board in the order of its steps: one for each step that
was completed, one for each probe, and behind them that of the step that failed (`board_of_aborted`). The
board has 25 rows, and two are taken before the first probe. So after 23 probes there is no row left for
the failure, and what the screen shows in its place are the labels of probes
(`aborted_shows_failure_iff`).
-/

namespace ProtectedBoot.Boot

open Attempt (Triple)
open Screen (Notice StatusBoard encode)

variable {σ α : Type} {n : Nat} {shape : TableShape} {cpu : Processor σ} {plan : Plan σ shape}
  {stage : PagingStage} {calls : List Call} {notices : List Notice} {s₀ : Session σ n}

/-! ## What was called and shown -/

/-- The processor has been called `calls`, and the board has been given `notices`. -/
structure Session.Showed (s₀ : Session σ n) (cpu : Processor σ) (calls : List Call)
    (notices : List Notice) (s : Session σ n) : Prop where
  machine : s.machine = cpu.after calls s₀.machine
  board : s.board = s₀.board.displayAll notices

/-- A run that is refused has shown what comes before the step that failed. -/
def ShowedAtStop (cpu : Processor σ) (plan : Plan σ shape) (s₀ : Session σ n) :
    Stop BootError → Session σ n → Prop
  | .refused e, s => s.board = s₀.board.displayAll (plan.noticesBefore cpu s₀.machine e)
  | .fault _, _ => True

theorem call_apply (cpu : Processor σ) (c : Call) (s : Session σ n) :
    call cpu c s = ((cpu.perform c s.machine).1.mapError .fault,
      { s with machine := (cpu.perform c s.machine).2, events := s.events ++ [.call c] }) :=
  rfl

theorem call_shows (c : Call) {E : Stop BootError → Session σ n → Prop}
    (faulty : ∀ f s, E (.fault f) s) :
    Triple (s₀.Showed cpu calls notices) (call cpu c)
      (fun a s => cpu.answer calls s₀.machine c = .ok a ∧ s₀.Showed cpu (calls ++ [c]) notices s) E := by
  intro s showed
  have answered : cpu.answer calls s₀.machine c = (cpu.perform c s.machine).1 := by
    rw [Processor.answer, showed.machine]
  have machine : (cpu.perform c s.machine).2 = cpu.after (calls ++ [c]) s₀.machine := by
    rw [Processor.after_append, ← showed.machine]
  rw [call_apply]
  rcases run : cpu.perform c s.machine with ⟨f | a, m⟩
  · exact faulty f _
  · rw [run] at answered machine
    exact ⟨answered, machine.symm ▸ rfl, showed.board⟩

theorem append_shows (records : List Log.Record) {E : Stop BootError → Session σ n → Prop} :
    Triple (s₀.Showed cpu calls notices) (append records) (fun _ => s₀.Showed cpu calls notices) E :=
  Triple.update fun _ h => ⟨h.machine, h.board⟩

theorem display_shows (label : String) (ok : Bool) {E : Stop BootError → Session σ n → Prop} :
    Triple (s₀.Showed cpu calls notices) (display label ok)
      (fun _ => s₀.Showed cpu calls (notices ++ [.outcome label ok])) E := by
  refine Triple.update fun s h => ⟨h.machine, ?_⟩
  rw [StatusBoard.displayAll_concat, ← h.board]
  rfl

/-! ## Protected mode -/

section

variable (cpu plan s₀)

theorem load_shows {E : Stop BootError → Session σ n → Prop} (faulty : ∀ f s, E (.fault f) s) :
    Triple (s₀.Showed cpu [] []) (load cpu plan.table)
      (fun _ => s₀.Showed cpu (protectionCalls plan.table) []) E := by
  rw [load]
  refine (call_shows _ faulty).bind fun _ => Triple.assuming fun _ => ?_
  refine (call_shows _ faulty).bind fun _ => Triple.assuming fun _ => ?_
  refine (call_shows _ faulty).bind fun _ => Triple.assuming fun _ => ?_
  refine (call_shows _ faulty).bind fun _ => Triple.assuming fun _ => ?_
  refine (append_shows _).bind fun _ => ?_
  exact Triple.pure fun _ h => h

theorem enterProtectedMode_shows :
    Triple (s₀.Showed cpu [] []) (enterProtectedMode cpu plan.table)
      (fun _ => s₀.Showed cpu (callsThrough plan [])
        [.outcome "descriptor table loaded" true, .outcome "protected mode" true])
      (ShowedAtStop cpu plan s₀) := by
  have faulty (f : Fault) (s : Session σ n) : ShowedAtStop cpu plan s₀ (.fault f) s := trivial
  rw [enterProtectedMode]
  refine (load_shows cpu plan s₀ faulty).bind fun _ => ?_
  refine (display_shows _ _).bind fun _ => ?_
  refine (call_shows _ faulty).bind fun answer => Triple.assuming fun _ => ?_
  cases answer with
  | true => exact (append_shows _).bind fun _ => display_shows _ _
  | false => exact Triple.refuse fun s h => h.board

end

/-! ## Probes -/

/-- The notices of a plan when `done` are the probes so far. -/
def noticesThrough (plan : Plan σ shape) (cpu : Processor σ) (s : σ) (done : List Probe) : List Notice :=
  [.outcome "descriptor table loaded" true, .outcome "protected mode" true] ++
    done.mapIdx (plan.probeNotice cpu s)

theorem probe_shows {done rest : List Probe} {p : Probe} (all : plan.probes = done ++ p :: rest)
    {E : Stop BootError → Session σ n → Prop} (faulty : ∀ f s, E (.fault f) s) :
    Triple (s₀.Showed cpu (callsThrough plan done) (noticesThrough plan cpu s₀.machine done))
      (probe cpu p)
      (fun _ => s₀.Showed cpu (callsThrough plan (done ++ [p]))
        (noticesThrough plan cpu s₀.machine (done ++ [p]))) E := by
  have before : plan.callsBeforeProbe done.length = callsThrough plan done := by
    rw [Plan.callsBeforeProbe, all, List.take_left' rfl]
    rfl
  rw [probe]
  refine (call_shows _ faulty).bind fun ok => Triple.assuming fun answered => ?_
  have verdict : plan.probeNotice cpu s₀.machine done.length p = .outcome p.label ok := by
    rw [Plan.probeNotice, Plan.probeFails, Plan.probeAnswer, before]
    rw [show cpu.answer (callsThrough plan done) s₀.machine (.probe p.address) = .ok ok from answered]
    simp
  have shown : noticesThrough plan cpu s₀.machine done ++ [.outcome p.label ok] =
      noticesThrough plan cpu s₀.machine (done ++ [p]) := by
    rw [noticesThrough, noticesThrough, List.mapIdx_concat, verdict, List.append_assoc]
  rw [← callsThrough_concat]
  have told (level : Log.Level) (message : String) :
      Triple (s₀.Showed cpu (callsThrough plan (done ++ [p])) (noticesThrough plan cpu s₀.machine done))
        (do log level message; display p.label ok; return ok)
        (fun _ => s₀.Showed cpu (callsThrough plan (done ++ [p]))
          (noticesThrough plan cpu s₀.machine (done ++ [p]))) E := by
    refine (append_shows _).bind fun _ => (display_shows _ _).bind fun _ => ?_
    rw [shown]
    exact Triple.pure fun _ h => h
  cases ok with
  | true => exact told .debug _
  | false => exact told .warn _

theorem probeAll_shows {done rest : List Probe} (all : plan.probes = done ++ rest) (tally : Tally)
    {E : Stop BootError → Session σ n → Prop} (faulty : ∀ f s, E (.fault f) s) :
    Triple (s₀.Showed cpu (callsThrough plan done) (noticesThrough plan cpu s₀.machine done))
      (probeAll cpu tally rest)
      (fun _ s => s.board = s₀.board.displayAll (plan.noticesBeforePaging cpu s₀.machine)) E := by
  -- Along the list, a probe moves from those that remain to those that are done.
  induction rest generalizing done tally with
  | nil =>
    rw [List.append_nil] at all
    rw [Plan.noticesBeforePaging, all]
    exact Triple.pure fun _ h => h.board
  | cons p rest ih =>
    rw [probeAll]
    refine (probe_shows all faulty).bind fun ok => ?_
    exact ih (by rw [all, List.append_assoc]; rfl) (tally.count ok)

/-! ## The paging stage -/

/-- What shows of a part that shows nothing and ends before its time. -/
def Unshown (b : StatusBoard) : Stop BootError → Session σ n → Prop
  | .refused e, s => e ≠ .protectionNotEnabled ∧ s.board = b
  | .fault _, _ => True

/-- Whichever way the part goes, it shows nothing, and it is not refused for want of protected mode. -/
def Silent (x : Step σ n α) : Prop :=
  ∀ b, Triple (fun s => s.board = b) x (fun _ s => s.board = b) (Unshown b)

namespace Silent

variable {β : Type}

theorem pure (a : α) : Silent (Pure.pure a : Step σ n α) := fun _ => Triple.pure fun _ same => same

theorem bind {x : Step σ n α} {f : α → Step σ n β} (hx : Silent x) (hf : ∀ a, Silent (f a)) :
    Silent (x >>= f) :=
  fun b => (hx b).bind fun a => hf a b

theorem call (cpu : Processor σ) (c : Call) : Silent (call cpu c : Step σ n _) := by
  intro b s same
  rw [call_apply]
  rcases (cpu.perform c s.machine).1 with f | a
  · trivial
  · exact same

theorem append (records : List Log.Record) : Silent (append records : Step σ n Unit) :=
  fun _ => Triple.update fun _ same => same

theorem state : Silent (Attempt.state : Step σ n (Session σ n)) :=
  fun _ => Triple.state fun _ same => same

theorem onTables (e : Paging.Edit n α) : Silent (onTables e : Step σ n α) := by
  intro b s same
  rw [Boot.onTables]
  rcases e s.tables with ⟨(reason | f) | a, tables⟩
  · exact ⟨by simp, same⟩
  · trivial
  · exact same

theorem ofFaulting (y : Except Fault α) : Silent (Attempt.ofFaulting y : Step σ n α) :=
  fun _ => Triple.ofFaulting (fun _ _ _ same => same) fun _ _ _ _ => trivial

theorem refuse {e : BootError} (other : e ≠ .protectionNotEnabled) :
    Silent (Attempt.refuse e : Step σ n α) :=
  fun _ => Triple.refuse fun _ same => ⟨other, same⟩

theorem prepare (stage : PagingStage) : Silent (prepare stage : Step σ n _) := by
  rw [Boot.prepare]
  refine (onTables _).bind fun _ => (append _).bind fun _ => state.bind fun _ => ?_
  refine (ofFaulting _).bind fun moved => ?_
  cases moved with
  | some a => exact refuse (by simp)
  | none => exact pure _

theorem turnPagingOn (cpu : Processor σ) (stage : PagingStage) :
    Silent (turnPagingOn cpu stage : Step σ n Unit) := by
  have confirmed : Silent (do
      Boot.call cpu .enablePaging
      if !(← Boot.call cpu .pagingEnabled) then Attempt.refuse .pagingNotEnabled : Step σ n Unit) := by
    refine (call cpu _).bind fun _ => (call cpu _).bind fun answer => ?_
    cases answer with
    | true => exact pure _
    | false => exact refuse (by simp)
  rw [Boot.turnPagingOn]
  refine state.bind fun _ => (call cpu _).bind fun _ => ?_
  split
  · exact (call cpu _).bind fun _ => confirmed
  · exact confirmed

end Silent

/-- A stage that fails shows nothing. -/
theorem performStage_shows (cpu : Processor σ) (stage : PagingStage) (b : StatusBoard) :
    Triple (fun s : Session σ n => s.board = b) (performStage cpu stage) (fun _ _ => True)
      (Unshown b) := by
  rw [performStage]
  refine (Silent.prepare stage b).bind fun _ => (Silent.turnPagingOn cpu stage b).bind fun _ => ?_
  refine (Silent.append _ b).bind fun _ => ?_
  exact Triple.bind (R := fun _ _ => True) (Triple.update fun _ _ => trivial) fun _ =>
    Triple.pure fun _ _ => trivial

/-! ## The boot -/

/-- **What a run that is refused has shown.** -/
theorem run_shows (cpu : Processor σ) (plan : Plan σ shape) (s₀ : Session σ n) :
    Triple (s₀.Showed cpu [] []) (run cpu plan) (fun _ _ => True) (ShowedAtStop cpu plan s₀) := by
  have faulty (f : Fault) (s : Session σ n) : ShowedAtStop cpu plan s₀ (.fault f) s := trivial
  rw [run]
  refine (enterProtectedMode_shows cpu plan s₀).bind fun _ => ?_
  refine (probeAll_shows (List.nil_append _).symm ⟨0, 0⟩ faulty).bind fun _ => ?_
  rcases plan.paging with _ | stage
  · exact Triple.pure fun _ _ => trivial
  · refine Triple.bind (R := fun _ _ => True) ?_ fun _ => Triple.pure fun _ _ => trivial
    refine (performStage_shows cpu stage _).stopping ?_
    rintro (e | f) s unshown
    · obtain ⟨other, same⟩ := unshown
      cases e with
      | protectionNotEnabled => exact absurd rfl other
      | table | paging | notIdentityMapped | pagingNotEnabled => exact same
    · trivial

variable {s u : Session σ n} {e : BootError}

/-- **The board of a boot that is aborted**, when it is over. -/
theorem board_of_aborted (refused : run cpu plan s = (.error (.refused e), u)) :
    (dispatch cpu plan s).2.board =
      s.board.displayAll (plan.noticesBefore cpu s.machine e ++ [.outcome e.step false]) := by
  have shown : u.board = s.board.displayAll (plan.noticesBefore cpu s.machine e) := by
    have halted := run_shows cpu plan s s ⟨rfl, rfl⟩
    rw [refused] at halted
    exact halted
  have closing : (dispatch cpu plan s).2.board = u.board.display (.outcome e.step false) := by
    rw [dispatch, Attempt.bind_apply, Attempt.settle, refused]
    rfl
  rw [closing, shown, StatusBoard.displayAll_concat]

/-! ## The screen -/

theorem BootError.length_step_le (e : BootError) : (encode e.step).length ≤ 16 := by
  cases e <;> (simp only [BootError.step]; decide +kernel)

/-- A processor that is in protected mode comes to the probes. -/
theorem noticesBefore_of_ne (other : e ≠ .protectionNotEnabled) (m : σ) :
    plan.noticesBefore cpu m e = plan.noticesBeforePaging cpu m := by
  cases e with
  | protectionNotEnabled => exact absurd rfl other
  | table | paging | notIdentityMapped | pagingNotEnabled => rfl

/-- Behind the probes, a failure is to be seen if there is a row left, or a failed probe that looks like
it. -/
theorem shows_failed_late_iff (late : e ≠ .protectionNotEnabled) (m : σ) :
    ((StatusBoard.startingAt 0).displayAll
      (plan.noticesBefore cpu m e ++ [.outcome e.step false])).screen.Shows
        (Notice.outcome e.step false).cells ↔
      plan.probes.length < 23 ∨
        ∃ i p, i < 23 ∧ plan.probes[i]? = some p ∧
          plan.probeAnswer cpu m i p.address = .ok false ∧ encode e.step <+: encode p.label := by
  have short : (encode e.step).length ≤ 73 := Nat.le_trans e.length_step_le (by decide)
  rw [StatusBoard.shows_failed_iff 0 _ short, noticesBefore_of_ne late]
  -- Two rows are taken when the first probe is shown.
  have behind (i : Nat) : (plan.noticesBeforePaging cpu m ++ [.outcome e.step false])[i + 2]? =
      (plan.probes.mapIdx (plan.probeNotice cpu m) ++ [.outcome e.step false])[i]? := rfl
  have length : (plan.probes.mapIdx (plan.probeNotice cpu m)).length = plan.probes.length :=
    List.length_mapIdx
  constructor
  · rintro ⟨i, label, inside, at_i, alike⟩
    match i with
    | 0 => cases at_i
    | 1 => cases at_i
    | i + 2 =>
      rw [behind, List.getElem?_append, length] at at_i
      split at at_i
      · rw [List.getElem?_mapIdx, Option.map_eq_some_iff] at at_i
        obtain ⟨p, at_p, notice⟩ := at_i
        obtain ⟨rfl, fails⟩ := Notice.outcome.inj notice
        rw [Bool.not_eq_false', Plan.probeFails_iff] at fails
        exact .inr ⟨i, p, by simp only [Screen.rows] at inside; omega, at_p, fails, alike⟩
      · simp only [Screen.rows] at inside
        exact .inl (by omega)
  · rintro (few | ⟨i, p, inside, at_p, fails, alike⟩)
    · refine ⟨plan.probes.length + 2, e.step, by simp only [Screen.rows]; omega, ?_, List.prefix_rfl⟩
      rw [behind, List.getElem?_append_right (Nat.le_of_eq length), length, Nat.sub_self]
      rfl
    · refine ⟨i + 2, p.label, by simp only [Screen.rows]; omega, ?_, alike⟩
      have notice : plan.probeNotice cpu m i p = .outcome p.label false := by
        rw [Plan.probeNotice, Plan.probeFails_iff.2 fails]
        rfl
      rw [behind, List.getElem?_append_left, List.getElem?_mapIdx, at_p, Option.map_some, notice]
      rw [length]
      exact (List.getElem?_eq_some_iff.1 at_p).1

/-- **When the screen shows why a boot was aborted.** It does if the processor did not switch to
protected mode, and it does if there were fewer than 23 probes. Otherwise the probes have taken all rows,
and the failure is to be seen only if it looks like that of a probe: one of the first 23 failed, and its
label starts with the label of the step. -/
theorem aborted_shows_failure_iff (fresh : s.board = .startingAt 0)
    (refused : run cpu plan s = (.error (.refused e), u)) :
    (dispatch cpu plan s).2.board.screen.Shows (Notice.outcome e.step false).cells ↔
      e = .protectionNotEnabled ∨ plan.probes.length < 23 ∨
        ∃ i p, i < 23 ∧ plan.probes[i]? = some p ∧
          plan.probeAnswer cpu s.machine i p.address = .ok false ∧ encode e.step <+: encode p.label := by
  rw [board_of_aborted refused, fresh]
  by_cases late : e = .protectionNotEnabled
  · subst late
    rw [StatusBoard.shows_failed_iff 0 _ (Nat.le_trans (BootError.length_step_le _) (by decide))]
    exact iff_of_true ⟨1, "protected mode", by decide, rfl, List.prefix_rfl⟩ (.inl rfl)
  · rw [shows_failed_late_iff late, or_iff_right late]

/-- A plan with a number of probes, and a paging stage that needs a page table. -/
def poorPlan (probes : Nat) : Plan Script .kernelOnly where
  table := smallPlan.table
  probes := List.replicate probes ⟨"low", ⟨0x1000⟩⟩
  paging := some ⟨⟨0x200000⟩, Paging.tightConfig, []⟩
  kernel := fun s => ([], s)

/-- A processor that does as it is told, and no page table. -/
def poorStart : Session Script 0 := .start ⟨false, false, true, true, []⟩ 0

-- How a run on a fixed plan ends is found by running it.
instance decidableRefused (r : Except (Stop BootError) α) (e : BootError) :
    Decidable (r = .error (.refused e)) :=
  match r with
  | .ok _ => isFalse nofun
  | .error stop => decidable_of_iff (stop = .refused e) ⟨congrArg _, Except.error.inj⟩

/-- With 22 probes, the failure takes the last row. -/
theorem poorPlan_shows_failure :
    ∃ u, run scripted (poorPlan 22) poorStart =
        (.error (.refused (.paging (.outOfTables 0))), u) ∧
      (dispatch scripted (poorPlan 22) poorStart).2.board.screen.Shows
        (Notice.outcome "page directory" false).cells := by
  have answer : (run scripted (poorPlan 22) poorStart).1 =
      .error (.refused (.paging (.outOfTables 0))) := by decide +kernel
  rcases ran : run scripted (poorPlan 22) poorStart with ⟨result, u⟩
  rw [ran] at answer
  cases answer
  exact ⟨u, rfl, (aborted_shows_failure_iff rfl ran).2 (.inr (.inl (by decide)))⟩

/-- With one probe more, there is no row for it. -/
theorem poorPlan_hides_failure :
    ∃ u, run scripted (poorPlan 23) poorStart =
        (.error (.refused (.paging (.outOfTables 0))), u) ∧
      ¬ (dispatch scripted (poorPlan 23) poorStart).2.board.screen.Shows
        (Notice.outcome "page directory" false).cells := by
  have answer : (run scripted (poorPlan 23) poorStart).1 =
      .error (.refused (.paging (.outOfTables 0))) := by decide +kernel
  rcases ran : run scripted (poorPlan 23) poorStart with ⟨result, u⟩
  rw [ran] at answer
  cases answer
  refine ⟨u, rfl, fun shown => ?_⟩
  rw [board_of_aborted ran] at shown
  have sound : ∀ i : Fin 23, (poorPlan 23).probeFails scripted poorStart.machine i.val
      ⟨"low", ⟨0x1000⟩⟩ = false := by decide
  rcases (shows_failed_late_iff (by simp) _).1 shown with few | ⟨i, p, inside, at_p, fails, -⟩
  · exact absurd few (by decide)
  · obtain ⟨-, rfl⟩ := List.mem_replicate.1 (List.mem_of_getElem? at_p)
    rw [← Plan.probeFails_iff, sound ⟨i, inside⟩] at fails
    cases fails

end ProtectedBoot.Boot
