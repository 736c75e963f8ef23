import ProtectedBoot.Proofs.Paging.Mapping
import ProtectedBoot.Proofs.Paging.Translation

/-!
# Entries stay until the block moves

The mapper writes only to slots and table entries that are not in use, and it never gives a table
back. So every request keeps every entry that there is, whichever way the request goes, unless it
moves the block: `keeps_afterAll` says so of a whole history.
-/

namespace ProtectedBoot.Paging.AddressSpace

open Attempt (Triple)

variable {n : Nat}

theorem keeps_takeTable {s : Slot} {user : Bool} {t : AddressSpace n}
    (empty : (t.dirEntry s).kind = none) : t.Keeps (takeTable s user t).2 := by
  rw [takeTable]
  split
  · rename_i free
    dsimp only
    split
    · exact Keeps.take free
    · exact Keeps.linkNext empty free user _
  · exact Keeps.refl t

theorem keeps_tableFor (va : VirtAddr) (user : Bool) (t : AddressSpace n) :
    t.Keeps (tableFor va user t).2 := by
  rw [tableFor]
  split
  · exact Keeps.refl t
  · split <;> exact Keeps.refl t
  · rename_i empty
    exact keeps_takeTable empty

theorem keeps_enterPage (i : Fin n) (va : VirtAddr) (page : PhysPage .kib4) (f : Flags)
    (t : AddressSpace n) : t.Keeps (enterPage i va page f t).2 := by
  rw [enterPage]
  split
  · split <;> exact Keeps.refl t
  · rename_i blank
    exact Keeps.setTableEntry blank _

theorem keeps_enterLargePage (va : VirtAddr) (page : PhysPage .mib4) (f : Flags)
    (t : AddressSpace n) : t.Keeps (enterLargePage va page f t).2 := by
  rw [enterLargePage]
  split
  · split <;> exact Keeps.refl t
  · exact Keeps.refl t
  · rename_i empty
    exact Keeps.setDirEntry empty _

theorem keeps_requireAligned {s : Space} (z : PageSize) (a : Address s) (t : AddressSpace n) :
    t.Keeps (requireAligned z a t).2 := by
  rw [requireAligned]
  split <;> exact Keeps.refl t

variable {t₀ : AddressSpace n}

/-- What follows an address space that keeps the entries of `t₀` keeps them as well. -/
theorem keeps_triple {α : Type} {x : Edit n α} (h : ∀ t : AddressSpace n, t.Keeps (x t).2) :
    Triple t₀.Keeps x (fun _ => t₀.Keeps) (fun _ => t₀.Keeps) :=
  Triple.of_left fun t kept => kept.trans (h t)

theorem keeps_mapPage_triple (z : PageSize) (va : VirtAddr) (pa : PhysAddr) (f : Flags) :
    Triple t₀.Keeps (mapPage z va pa f) (fun _ => t₀.Keeps) (fun _ => t₀.Keeps) := by
  have aligned {s : Space} (a : Address s) :
      Triple t₀.Keeps (requireAligned z a) (fun _ => t₀.Keeps) (fun _ => t₀.Keeps) :=
    keeps_triple (keeps_requireAligned z a)
  cases z with
  | kib4 =>
    refine (aligned va).bind fun _ => (aligned pa).bind fun _ => ?_
    refine Triple.bind (keeps_triple (keeps_tableFor va f.user)) fun i => ?_
    exact keeps_triple (keeps_enterPage i va (.containing pa) f)
  | mib4 =>
    refine (aligned va).bind fun _ => (aligned pa).bind fun _ => ?_
    exact keeps_triple (keeps_enterLargePage va (.containing pa) f)

/-- **Mapping a page keeps every entry**, whichever way it goes. -/
theorem keeps_mapPage (z : PageSize) (va : VirtAddr) (pa : PhysAddr) (f : Flags)
    (t : AddressSpace n) : t.Keeps (mapPage z va pa f t).2 :=
  (keeps_mapPage_triple z va pa f).left (Keeps.refl t)

/-- **A request that does not move the block keeps every entry**, whichever way it goes. -/
theorem keeps_after {r : Request} (stays : ¬ r.Forgets) (t : AddressSpace n) :
    t.Keeps (t.after r) := by
  refine Triple.left (Request.perform_triple r ?_ keeps_mapPage_triple ?_) (Keeps.refl t)
  · intro base asked u kept
    have misaligned : ¬ base.isAligned .kib4 = true := fun h => stays ⟨base, asked, h⟩
    rw [reset_of_misaligned misaligned]
    exact kept
  · exact fun _ _ _ kept => kept

/-- **A history that never moves the block keeps every entry.** -/
theorem keeps_afterAll {history : List Request} (stays : ∀ r ∈ history, ¬ r.Forgets)
    (t : AddressSpace n) : t.Keeps (t.afterAll history) := by
  induction history generalizing t with
  | nil => exact Keeps.refl t
  | cons r rest ih =>
    have first := keeps_after (stays r List.mem_cons_self) t
    exact first.trans (ih (fun q hq => stays q (List.mem_cons_of_mem r hq)) (t.after r))

end ProtectedBoot.Paging.AddressSpace
