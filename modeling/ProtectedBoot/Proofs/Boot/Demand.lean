import ProtectedBoot.Boot.Demand
import ProtectedBoot.Proofs.Boot.Course
import ProtectedBoot.Proofs.Segment.Loadable

/-!
# Every call finds its demands met

What a boot leaves behind are calls that its plan allows, whichever way it went
(`dispatch_leaves`). So it is enough to go through the lists of calls once, each call with those
before it (`Plan.Meets`): the calls into protected mode, the probes, and the calls of the paging
stage. `dispatch_meets_demands` says what comes of it for every call of every boot.
-/

namespace ProtectedBoot.Boot

open Paging (AddressSpace)

variable {σ : Type} {n : Nat} {shape : TableShape} {cpu : Processor σ} {plan : Plan σ shape}
  {stage : PagingStage} {t : AddressSpace n} {before : List Call}

/-! ## Going through the calls -/

/-- Each of the calls finds its demand met by `before` and the calls between. -/
def Plan.Meets (plan : Plan σ shape) (t : AddressSpace n) : List Call → List Call → Prop
  | _, [] => True
  | before, c :: rest => c.Demand plan t (before.map .call) ∧ plan.Meets t (before ++ [c]) rest

namespace Plan

theorem meets_append {l r : List Call} :
    plan.Meets t before (l ++ r) ↔ plan.Meets t before l ∧ plan.Meets t (before ++ l) r := by
  induction l generalizing before with
  | nil => simp [Meets]
  | cons c l ih => simp [Meets, ih, and_assoc]

/-- Each call of a list finds its demand met by those before it in the list. -/
theorem Meets.demand {l r : List Call} {c : Call} (h : plan.Meets t [] (l ++ c :: r)) :
    c.Demand plan t (l.map .call) := by
  rw [meets_append, List.nil_append] at h
  exact h.2.1

theorem Meets.shorten {l r : List Call} (h : plan.Meets t [] r) (le : l <+: r) :
    plan.Meets t [] l := by
  obtain ⟨rest, rfl⟩ := le
  exact (meets_append.1 h).1

/-! ## The calls of a boot -/

theorem meets_protectionCalls (plan : Plan σ shape) (t : AddressSpace n) :
    plan.Meets t [] (protectionCalls plan.table) := by
  have told (l : List Call) (other : ∀ p, Call.loadTable p ∉ l) :
      Told plan.table ((.loadTable plan.table.pointer :: l).map .call) := by
    refine ⟨plan.table.pointer_covers, by simp, fun p mem => ?_⟩
    simp only [List.mem_map, List.mem_cons, Event.call.injEq, exists_eq_right,
      Call.loadTable.injEq] at mem
    exact mem.resolve_right (other p)
  have switched : Told plan.table
      ([.loadTable plan.table.pointer, .enableProtection].map .call) := told [_] (by simp)
  have reloaded : Told plan.table
      ([.loadTable plan.table.pointer, .enableProtection, .reloadCode kernelCode].map .call) :=
    told [_, _] (by simp)
  exact ⟨plan.table.pointer_covers, told [] (by simp),
    ⟨⟨switched, List.Sublist.refl _⟩, plan.table.kernelCode_loads⟩,
    ⟨⟨reloaded, List.sublist_append_left _ [_]⟩, plan.table.kernelData_loads⟩, trivial⟩

theorem meets_probes (plan : Plan σ shape) (t : AddressSpace n) (before : List Call)
    (probes : List Probe) : plan.Meets t before (probes.map fun p => .probe p.address) := by
  induction probes generalizing before with
  | nil => trivial
  | cons p rest ih => exact ⟨trivial, ih _⟩

theorem meets_callsBeforePaging (plan : Plan σ shape) (t : AddressSpace n) :
    plan.Meets t [] (callsBeforePaging plan) := by
  rw [callsBeforePaging, meets_append, meets_append]
  exact ⟨⟨plan.meets_protectionCalls t, trivial, trivial⟩, plan.meets_probes t _ _⟩

theorem directory_of_ready (ready : stage.ReadyWith t) : Directory stage t := by
  obtain ⟨r, built⟩ := ready.built
  exact ⟨Paging.dvd_base_of_build built, Paging.base_of_build built, ready⟩

theorem meets_pagingCalls (asked : plan.paging = some stage) (ready : stage.ReadyWith t) :
    plan.Meets t (callsBeforePaging plan) (pagingCalls stage ++ [.pagingEnabled]) := by
  have directory := directory_of_ready ready
  -- No directory is installed before the stage, so that of the stage is the only one.
  have none_before (a : PhysAddr) : .installDirectory a ∉ callsBeforePaging plan := by
    intro mem
    cases Course.concernsPaging_of_mem_callsBeforePaging mem
  have installed (l : List Call) (other : ∀ a, Call.installDirectory a ∉ l) :
      Installed stage t
        ((callsBeforePaging plan ++ [Call.installDirectory stage.base] ++ l).map .call) := by
    refine ⟨directory, by simp, fun a mem => ?_⟩
    simpa [none_before, other] using mem
  have first : Call.Demand plan t ((callsBeforePaging plan).map .call)
      (.installDirectory stage.base) := ⟨stage, asked, rfl, directory⟩
  by_cases large : stage.config.pageSize = .mib4
  · have all : pagingCalls stage =
        [.installDirectory stage.base, .enableLargePages, .enablePaging] := by
      simp [pagingCalls, large]
    rw [all]
    exact ⟨first, trivial, ⟨stage, asked, installed [_] (by simp)⟩, trivial, trivial⟩
  · have all : pagingCalls stage = [.installDirectory stage.base, .enablePaging] := by
      simp [pagingCalls, large]
    rw [all]
    refine ⟨first, ⟨stage, asked, ?_⟩, trivial, trivial⟩
    simpa using installed [] (by simp)

/-- **Whatever a plan allows meets all demands.** -/
theorem Allows.meets {calls : List Call} (h : plan.Allows t calls) : plan.Meets t [] calls := by
  cases h with
  | before le => exact (plan.meets_callsBeforePaging t).shorten le
  | through asked ready le =>
    refine Meets.shorten ?_ le
    rw [List.append_assoc, meets_append]
    exact ⟨plan.meets_callsBeforePaging t, meets_pagingCalls asked ready⟩

end Plan

/-! ## The boot -/

theorem dispatch_leaves (cpu : Processor σ) (plan : Plan σ shape) (s : Session σ n) :
    plan.Leaves s (dispatch cpu plan s).2 := by
  rcases (dispatch_triple cpu plan s).ends (.start cpu s) with ⟨_, u, ran, course, finished⟩ |
    ⟨e, u, ran, -, leaves⟩
  · rw [ran]
    exact finished.leaves
  · rw [ran]
    exact leaves

/-- Where a call stands among calls and a closing that holds no call but the halt. -/
theorem eq_halt_or_split {calls : List Call} {closing before after : List Event} {c : Call}
    (harmless : ∀ c, Event.call c ∈ closing → c = .halt)
    (split : calls.map .call ++ closing = before ++ .call c :: after) :
    c = .halt ∨ ∃ l r, calls = l ++ c :: r ∧ l.map .call = before := by
  rcases List.append_eq_append_iff.1 split with ⟨l, -, rest⟩ | ⟨l, early, rest⟩
  · exact .inl (harmless c (by simp [rest]))
  · cases l with
    | nil => exact .inl (harmless c (by simp [← rest.trans (List.nil_append _)]))
    | cons e l =>
      right
      obtain ⟨rfl, -⟩ := List.cons.inj rest
      obtain ⟨l₁, l₂, all, first, second⟩ := List.map_eq_append_iff.1 early
      obtain ⟨c', l₃, rfl, same, -⟩ := List.map_eq_cons_iff.1 second
      cases same
      exact ⟨l₁, l₃, all, first⟩

/-- **Every call of every boot finds its demands met**, on any processor, whatever it answers and
whichever of its calls it does not carry out, in any state, and whichever way the boot goes. The page
tables that the demands speak of are those that the boot leaves behind; since this may be a boot that
the processor cut short at the call itself, they are the tables at the call as well. -/
theorem dispatch_meets_demands (cpu : Processor σ) (plan : Plan σ shape) (s : Session σ n)
    {before after : List Event} {c : Call}
    (called : (dispatch cpu plan s).2.events = s.events ++ (before ++ .call c :: after)) :
    c.Demand plan (dispatch cpu plan s).2.tables before := by
  obtain ⟨calls, closing, allowed, harmless, events⟩ := dispatch_leaves cpu plan s
  rw [events] at called
  rcases eq_halt_or_split harmless (List.append_cancel_left called) with rfl | ⟨l, r, rfl, rfl⟩
  · trivial
  · exact allowed.meets.demand

/-- What the small plan has done when it is about to turn paging on. -/
def beforeTranslation : List Event :=
  (callsBeforePaging smallPlan ++ [Call.installDirectory smallStage.base]).map .call

theorem smallPlan_demands_met :
    (dispatch scripted smallPlan smallStart).2.events =
        smallStart.events ++ (beforeTranslation ++ .call .enablePaging ::
          [.call .pagingEnabled, .kernelEntry, .call .halt]) ∧
      Installed smallStage (dispatch scripted smallPlan smallStart).2.tables beforeTranslation := by
  have called : (dispatch scripted smallPlan smallStart).2.events =
      smallStart.events ++ (beforeTranslation ++ .call .enablePaging ::
        [.call .pagingEnabled, .kernelEntry, .call .halt]) := by
    decide +kernel
  obtain ⟨stage, asked, installed⟩ := dispatch_meets_demands scripted smallPlan smallStart called
  cases asked
  exact ⟨called, installed⟩

end ProtectedBoot.Boot
