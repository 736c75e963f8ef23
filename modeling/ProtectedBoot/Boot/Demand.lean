import ProtectedBoot.Boot.Course
import ProtectedBoot.Segment.Loadable

/-!
# What the calls demand

Most calls may only be made once others have been made, and with the right operands. `Call.Demand` says
what each of them demands of the events before it: of the descriptor table that the processor has been
told of, and of the page directory that it has been given. Who makes a call too early brings the
machine down.

That the boot code runs at ring 0, and that the addresses it probes are those of memory, are demands on
whoever starts it, and are not among these.
-/

namespace ProtectedBoot.Boot

open Paging (AddressSpace)

variable {σ : Type} {n : Nat} {shape : TableShape}

/-- The processor has been told where the table is, and of no other table. -/
structure Told (b : BoundTable shape) (before : List Event) : Prop where
  covers : b.pointer.Covers shape.entries
  told : .call (.loadTable b.pointer) ∈ before
  only : ∀ p, Event.call (.loadTable p) ∈ before → p = b.pointer

/-- The processor has been told where the table is, and was then switched to protected mode. -/
structure InForce (b : BoundTable shape) (before : List Event) : Prop where
  told : Told b before
  entered : [.call (.loadTable b.pointer), .call .enableProtection].Sublist before

/-- The page tables `t` are what was built for the stage: the directory starts a page at the base of
the stage, and every address that is to be kept is mapped to itself. -/
structure Directory (stage : PagingStage) (t : AddressSpace n) : Prop where
  aligned : 4096 ∣ stage.base.toNat
  at_base : t.base = stage.base
  ready : stage.ReadyWith t

/-- The processor has been given the directory of the page tables `t`, and no other directory. -/
structure Installed (stage : PagingStage) (t : AddressSpace n) (before : List Event) : Prop where
  directory : Directory stage t
  installed : .call (.installDirectory stage.base) ∈ before
  only : ∀ a, Event.call (.installDirectory a) ∈ before → a = stage.base

/-- What a call demands of the events before it, and of the page tables `t`. -/
def Call.Demand (plan : Plan σ shape) (t : AddressSpace n) (before : List Event) : Call → Prop
  | .loadTable p => p.Covers shape.entries
  | .enableProtection => Told plan.table before
  | .reloadCode s => InForce plan.table before ∧ ∃ d, plan.table.Names s d ∧ d.LoadsAsCode 0
  | .reloadData s => InForce plan.table before ∧ ∃ d, plan.table.Names s d ∧ d.LoadsAsData 0
  | .installDirectory a => ∃ stage, plan.paging = some stage ∧ a = stage.base ∧ Directory stage t
  | .enablePaging => ∃ stage, plan.paging = some stage ∧ Installed stage t before
  | .protectionEnabled | .probe _ | .enableLargePages | .pagingEnabled | .halt => True

end ProtectedBoot.Boot
