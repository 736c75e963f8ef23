import ProtectedBoot.Proofs.Paging.Pool

/-!
# How changes show in the translation

While directory and pool are in step, translation never faults: an address is translated by the leaf
in its slot, or by its entry in the table that its slot links (`translate_of_leaf`,
`translate_of_links`). Linking a fresh table does not show at all, and entering a page shows at the
addresses of the page and nowhere else (`translate_setTableEntry`, `translate_setPage`).

`Keeps` says that an address space has every entry of an earlier one. Whatever was mapped then is
mapped in the same way now (`Keeps.translate`).
-/

namespace ProtectedBoot.Paging.AddressSpace

variable {n : Nat} {t u : AddressSpace n} {va : VirtAddr}

/-! ## By the kind of the slot -/

theorem translate_of_empty (empty : (t.dirEntry (.inDirectory va)).kind = none) :
    t.translate va = .ok none := by
  simp only [translate, empty]

theorem translate_of_leaf {p : PhysPage .mib4}
    (leaf : (t.dirEntry (.inDirectory va)).kind = some (.leaf p)) :
    t.translate va = .ok (some (p.locate va)) := by
  simp only [translate, leaf]

theorem translate_of_links {i : Fin n} (taken : i.val < t.used)
    (links : t.Links (.inDirectory va) i) :
    t.translate va = .ok ((t.tableEntry i (.inTable va)).page?.map fun q => q.locate va) := by
  obtain ⟨p, link, place⟩ := links
  simp only [translate, link, tableIn_eq_some taken place]

theorem exists_translate (wf : t.WellFormed) (va : VirtAddr) : ∃ found, t.translate va = .ok found := by
  rcases kind : (t.dirEntry (.inDirectory va)).kind with _ | p | p
  · exact ⟨_, translate_of_empty kind⟩
  · obtain ⟨i, taken, -, place⟩ := wf.tableIn_eq_of_link kind
    exact ⟨_, translate_of_links taken ⟨p, kind, place⟩⟩
  · exact ⟨_, translate_of_leaf kind⟩

/-- Only the slot of an address, and its entry in the table of the slot, decide about its
translation. -/
theorem translate_congr (wf : t.WellFormed) (base : u.base = t.base) (used : t.used ≤ u.used)
    (directory : u.dirEntry (.inDirectory va) = t.dirEntry (.inDirectory va))
    (table : ∀ i : Fin n, t.Links (.inDirectory va) i →
      u.tableEntry i (.inTable va) = t.tableEntry i (.inTable va)) :
    u.translate va = t.translate va := by
  rcases kind : (t.dirEntry (.inDirectory va)).kind with _ | p | p
  · rw [translate_of_empty kind, translate_of_empty (directory ▸ kind)]
  · obtain ⟨i, taken, -, place⟩ := wf.tableIn_eq_of_link kind
    have links : t.Links (.inDirectory va) i := ⟨p, kind, place⟩
    have links' : u.Links (.inDirectory va) i := (Links.congr directory base).2 links
    rw [translate_of_links taken links, translate_of_links (Nat.lt_of_lt_of_le taken used) links',
      table i links]
  · rw [translate_of_leaf kind, translate_of_leaf (directory ▸ kind)]

/-! ## What the three changes do to it -/

/-- **A fresh table does not show.** -/
theorem translate_linkNext (wf : t.WellFormed) {s : Slot} (empty : (t.dirEntry s).kind = none)
    (free : t.used < n) (user : Bool) {a : PhysAddr}
    (at_next : t.tableAddress t.used = .ok a) (va : VirtAddr) :
    (t.linkNext free s user a).translate va = t.translate va := by
  by_cases hs : Slot.inDirectory va = s
  · subst hs
    have links := (wf.links_linkNext empty free user at_next (.inDirectory va) t.used).2
      (.inl ⟨rfl, rfl⟩)
    rw [translate_of_empty empty,
      translate_of_links (i := ⟨t.used, free⟩) (Nat.lt_succ_self _) links, tableEntry_linkNext,
      wf.tableEntry_eq_empty (Nat.le_refl _), TableEntry.page?_empty, Option.map_none]
  · refine translate_congr wf rfl (Nat.le_succ _) ?_ fun _ _ => rfl
    rw [dirEntry_linkNext, if_neg hs]

/-- **A page in a table shows where slot and table entry are its own.** -/
theorem translate_setTableEntry (wf : t.WellFormed) {s r : Slot} {i : Fin n} (links : t.Links s i)
    (e : TableEntry) (va : VirtAddr) :
    (t.setTableEntry i r e).translate va =
      if Slot.inDirectory va = s ∧ Slot.inTable va = r then .ok (e.page?.map fun q => q.locate va)
      else t.translate va := by
  have taken := wf.lt_used_of_links links
  split
  · rename_i own
    obtain ⟨rfl, rfl⟩ := own
    have links' : (t.setTableEntry i (.inTable va) e).Links (.inDirectory va) i := links
    rw [translate_of_links (t := t.setTableEntry i (.inTable va) e) taken links',
      tableEntry_setTableEntry, if_pos ⟨rfl, rfl⟩]
  · rename_i other
    refine translate_congr wf rfl (Nat.le_refl _) rfl fun j links' => ?_
    rw [tableEntry_setTableEntry, if_neg]
    -- The table is that of the slot `s` alone.
    rintro ⟨rfl, hr⟩
    exact other ⟨wf.link_unique _ _ _ links' links, hr⟩

/-- **A large page shows where the slot is its own.** -/
theorem translate_setPage (wf : t.WellFormed) (s : Slot) (f : Flags) (p : PhysPage .mib4)
    (va : VirtAddr) :
    (t.setDirEntry s (.ofPage f p)).translate va =
      if Slot.inDirectory va = s then .ok (some (p.locate va)) else t.translate va := by
  split
  · rename_i own
    subst own
    apply translate_of_leaf
    rw [dirEntry_setDirEntry, if_pos rfl, DirEntry.kind_ofPage]
  · rename_i other
    refine translate_congr wf rfl (Nat.le_refl _) ?_ fun _ _ => rfl
    rw [dirEntry_setDirEntry, if_neg other]

/-! ## Later address spaces -/

/-- The address space `u` has every entry that `t` has, in a block at the same place. -/
structure Keeps (t u : AddressSpace n) : Prop where
  base : u.base = t.base
  used : t.used ≤ u.used
  directory : ∀ s, (t.dirEntry s).isPresent = true → u.dirEntry s = t.dirEntry s
  table : ∀ i s, (t.tableEntry i s).isPresent = true → u.tableEntry i s = t.tableEntry i s

namespace Keeps

theorem refl (t : AddressSpace n) : t.Keeps t :=
  ⟨rfl, Nat.le_refl _, fun _ _ => rfl, fun _ _ _ => rfl⟩

theorem trans {w : AddressSpace n} (h : t.Keeps u) (k : u.Keeps w) : t.Keeps w where
  base := k.base.trans h.base
  used := Nat.le_trans h.used k.used
  directory s present := by
    have same := h.directory s present
    rw [← same] at present ⊢
    exact k.directory s present
  table i s present := by
    have same := h.table i s present
    rw [← same] at present ⊢
    exact k.table i s present

theorem setDirEntry {s : Slot} (empty : (t.dirEntry s).kind = none) (e : DirEntry) :
    t.Keeps (t.setDirEntry s e) where
  base := rfl
  used := Nat.le_refl _
  directory r present := by
    have hr : r ≠ s := by
      rintro rfl
      rw [DirEntry.kind_eq_none_iff.1 empty] at present
      cases present
    rw [dirEntry_setDirEntry, if_neg hr]
  table _ _ _ := rfl

theorem setTableEntry {i : Fin n} {s : Slot} (blank : (t.tableEntry i s).page? = none)
    (e : TableEntry) : t.Keeps (t.setTableEntry i s e) where
  base := rfl
  used := Nat.le_refl _
  directory _ _ := rfl
  table j r present := by
    have other : ¬ (j = i ∧ r = s) := by
      rintro ⟨rfl, rfl⟩
      rw [TableEntry.page?_eq_none_iff.1 blank] at present
      cases present
    rw [tableEntry_setTableEntry, if_neg other]

/-- Counting a table as taken does not touch an entry. -/
theorem take (free : t.used < n) : t.Keeps { t with used := t.used + 1, used_le := free } :=
  ⟨rfl, Nat.le_succ _, fun _ _ => rfl, fun _ _ _ => rfl⟩

theorem linkNext {s : Slot} (empty : (t.dirEntry s).kind = none) (free : t.used < n) (user : Bool)
    (a : PhysAddr) : t.Keeps (t.linkNext free s user a) :=
  (take free).trans (setDirEntry (t := { t with used := t.used + 1, used_le := free }) empty _)

/-- A table that was found is found again. -/
theorem tableIn (h : t.Keeps u) {p : PhysPage .kib4} {i : Fin n}
    (found : t.tableIn p = .ok (some i)) : u.tableIn p = .ok (some i) := by
  obtain ⟨first, at_first, found⟩ := bind_eq_ok_iff.1 found
  have at_first' : u.tableAddress 0 = .ok first := by
    rw [tableAddress, h.base]
    exact at_first
  refine bind_eq_ok_iff.2 ⟨first, at_first', ?_⟩
  split at found
  · cases found
  · dsimp only at found
    split at found
    · rename_i taken
      cases found
      dsimp only
      rw [dif_pos (Nat.lt_of_lt_of_le taken h.used)]
      rfl
    · cases found

/-- **What was mapped stays mapped.** -/
theorem translate (h : t.Keeps u) {pa : PhysAddr} (mapped : t.translate va = .ok (some pa)) :
    u.translate va = .ok (some pa) := by
  rcases kind : (t.dirEntry (.inDirectory va)).kind with _ | p | p
  · rw [translate_of_empty kind] at mapped
    cases mapped
  · have same := h.directory _ (DirEntry.isPresent_of_kind kind)
    simp only [AddressSpace.translate, same, kind] at mapped ⊢
    rcases found : t.tableIn p with c | _ | i
    · rw [found] at mapped
      cases mapped
    · rw [found] at mapped
      cases mapped
    · simp only [found, h.tableIn found] at mapped ⊢
      rcases entry : (t.tableEntry i (.inTable va)).page? with _ | q
      · rw [entry] at mapped
        cases mapped
      · rw [h.table i _ (TableEntry.isPresent_of_page? entry)]
        exact mapped
  · have same := h.directory _ (DirEntry.isPresent_of_kind kind)
    simp only [AddressSpace.translate, same, kind] at mapped ⊢
    exact mapped

end Keeps

end ProtectedBoot.Paging.AddressSpace
