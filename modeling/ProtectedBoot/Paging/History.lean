import ProtectedBoot.Paging.Build

/-!
# What may have happened to an address space

Everything that is ever asked of an address space is one of five **requests**. A request may go
well, be refused, or fault, and whichever it is, it leaves an address space behind. `Reachable`
holds of every address space that some history of requests leaves behind, as long as each block that
is asked for ends no later than memory does. `Attainable` lets the blocks lie anywhere, and asks
instead that no request faulted.
-/

namespace ProtectedBoot.Paging

/-- Something that is asked of an address space. -/
inductive Request where
  /-- Forget all mappings and move the block. -/
  | reset (base : PhysAddr)
  /-- Map a 4 KiB page. -/
  | mapSmall (va : VirtAddr) (pa : PhysAddr) (f : Flags)
  /-- Map a 4 MiB page. -/
  | mapLarge (va : VirtAddr) (pa : PhysAddr) (f : Flags)
  /-- Map a range with pages of one size. -/
  | mapRange (z : PageSize) (va : VirtAddr) (pa : PhysAddr) (len : Word) (f : Flags)
  /-- Build the boot address space. -/
  | build (base : PhysAddr) (c : PagingConfig)
deriving DecidableEq

/-- Whether the directory and `n` tables at `base` end no later than memory does. -/
def BlockFits (n : Nat) (base : PhysAddr) : Prop :=
  base.toNat + 4096 * (n + 1) ≤ 0x100000000

instance (n : Nat) (base : PhysAddr) : Decidable (BlockFits n base) :=
  inferInstanceAs (Decidable (_ ≤ _))

namespace Request

/-- Do what is asked. -/
def perform {n : Nat} : Request → Edit n Unit
  | reset base => AddressSpace.reset base
  | mapSmall va pa f => AddressSpace.mapSmall va pa f
  | mapLarge va pa f => AddressSpace.mapLarge va pa f
  | mapRange z va pa len f => do
    let _ ← AddressSpace.mapRange z va pa len f
  | build base c => do
    let _ ← Paging.build base c

/-- The place that a request moves the block to, if it moves it. -/
def newBase? : Request → Option PhysAddr
  | reset base | build base _ => some base
  | mapSmall .. | mapLarge .. | mapRange .. => none

/-- Whether the request keeps the block, or moves it to where there is room for it. -/
def Fits (n : Nat) (r : Request) : Prop := ∀ base ∈ r.newBase?, BlockFits n base

instance (n : Nat) (r : Request) : Decidable (r.Fits n) :=
  inferInstanceAs (Decidable (∀ base ∈ r.newBase?, BlockFits n base))

/-- The request forgets every mapping: it moves the block to a page, whichever way the rest of it
goes. -/
def Forgets (r : Request) : Prop := ∃ base ∈ r.newBase?, base.isAligned .kib4 = true

instance (r : Request) : Decidable r.Forgets :=
  inferInstanceAs (Decidable (∃ base ∈ r.newBase?, base.isAligned .kib4 = true))

/-- The request does not fault. -/
def Survives {n : Nat} (r : Request) (t : AddressSpace n) : Prop :=
  ∀ f, (r.perform t).1 ≠ .error (.fault f)

theorem survives_of_ok {n : Nat} {r : Request} {t : AddressSpace n} (ok : (r.perform t).1 = .ok ()) :
    r.Survives t := by
  intro f fault
  rw [ok] at fault
  cases fault

end Request

namespace AddressSpace

variable {n : Nat}

/-- The address space that a request leaves behind, whichever way it went. -/
def after (t : AddressSpace n) (r : Request) : AddressSpace n := (r.perform t).2

/-- The address space that requests leave behind, one after the other. -/
def afterAll (t : AddressSpace n) (history : List Request) : AddressSpace n :=
  history.foldl after t

/-- The address spaces that some history of requests leaves behind. -/
inductive Reachable : AddressSpace n → Prop where
  | empty : Reachable (empty n)
  | step {t : AddressSpace n} (r : Request) : Reachable t → r.Fits n → Reachable (t.after r)

/-- A history leads from a reachable address space to a reachable one. -/
theorem Reachable.afterAll {t : AddressSpace n} (h : Reachable t) (history : List Request)
    (fits : ∀ r ∈ history, r.Fits n) : Reachable (t.afterAll history) := by
  induction history generalizing t with
  | nil => exact h
  | cons r rest ih =>
    exact ih (h.step r (fits r List.mem_cons_self)) fun q hq =>
      fits q (List.mem_cons_of_mem r hq)

/-- **Reachable means: by a history from the empty address space.** -/
theorem reachable_iff {t : AddressSpace n} :
    Reachable t ↔
      ∃ history, (∀ r ∈ history, r.Fits n) ∧ (AddressSpace.empty n).afterAll history = t := by
  constructor
  · intro h
    induction h with
    | empty => exact ⟨[], by simp, rfl⟩
    | step r _ fits ih =>
      obtain ⟨history, all, rfl⟩ := ih
      refine ⟨history ++ [r], ?_, by simp [AddressSpace.afterAll]⟩
      intro q hq
      rcases List.mem_append.1 hq with hq | hq
      · exact all q hq
      · cases List.mem_singleton.1 hq
        exact fits
  · rintro ⟨history, all, rfl⟩
    exact Reachable.empty.afterAll history all

/-- The address spaces that some history of requests leaves behind, none of which faulted. -/
inductive Attainable : AddressSpace n → Prop where
  | empty : Attainable (empty n)
  | step {t : AddressSpace n} (r : Request) : Attainable t → r.Survives t → Attainable (t.after r)

end AddressSpace

end ProtectedBoot.Paging
