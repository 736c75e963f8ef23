import Mathlib.Data.Fintype.Card
import ProtectedBoot.Paging.WellFormed
import ProtectedBoot.Proofs.Paging.Entry

/-!
# The directory and its pool stay in step

An address space changes in three ways only: a slot is linked to the next table of the pool, a page
is entered into a table that was taken, and a page is entered into an empty slot of the directory.
Each of the three keeps the directory and the pool in step (`WellFormed.linkNext`,
`WellFormed.setTableEntry`, `WellFormed.setPage`). There are never more tables taken than there are
slots, so in a block that has room for a table per slot the next table always has an address.
-/

namespace ProtectedBoot.Paging.AddressSpace

variable {n : Nat} {t : AddressSpace n}

/-! ## Reading back -/

theorem dirEntry_setDirEntry (t : AddressSpace n) (s r : Slot) (e : DirEntry) :
    (t.setDirEntry s e).dirEntry r = if r = s then e else t.dirEntry r := by
  simp only [dirEntry, setDirEntry, Fin.getElem_fin, Vector.getElem_set, Fin.val_inj]
  split
  · rw [if_pos (Eq.symm ‹_›)]
  · rw [if_neg (Ne.symm ‹_›)]

theorem dirEntry_setTableEntry (t : AddressSpace n) (i : Fin n) (s r : Slot) (e : TableEntry) :
    (t.setTableEntry i s e).dirEntry r = t.dirEntry r :=
  rfl

theorem tableEntry_setTableEntry (t : AddressSpace n) (i j : Fin n) (s r : Slot) (e : TableEntry) :
    (t.setTableEntry i s e).tableEntry j r = if j = i ∧ r = s then e else t.tableEntry j r := by
  simp only [tableEntry, setTableEntry, Fin.getElem_fin, Vector.getElem_set, Fin.val_inj]
  by_cases hj : i = j
  · subst hj
    by_cases hr : s = r
    · simp [hr]
    · simp [hr, Ne.symm hr, Fin.val_inj]
  · simp [hj, Ne.symm hj]

/-! ## Where tables lie -/

theorem tableAddress_eq_ok_iff {i : Nat} {a : PhysAddr} (hi : i < 0x100000000) :
    t.tableAddress i = .ok a ↔ a.toNat = t.base.toNat + 4096 * (i + 1) := by
  have number : (BitVec.ofNat 32 i).toNat = i := by
    rw [BitVec.toNat_ofNat]
    exact Nat.mod_eq_of_lt hi
  have page : (4096 : Word).toNat = 4096 := rfl
  have ha := a.toNat_lt
  simp only [tableAddress, bind_eq_ok_iff, checkedAdd_eq_ok_iff, checkedMul_eq_ok_iff, number, page]
  constructor
  · rintro ⟨first, h₁, distance, h₂, address, h₃, h₄⟩
    cases h₄
    simp only [Address.toNat]
    omega
  · intro h
    simp only [Address.toNat] at h ha
    refine ⟨BitVec.ofNat 32 (t.base.bits.toNat + 4096), ?_, BitVec.ofNat 32 (i * 4096), ?_,
      a.bits, ?_, rfl⟩
    all_goals simp only [BitVec.toNat_ofNat]; omega

/-- **Search by address finds the table that was linked.** -/
theorem tableIn_eq_some {p : PhysPage .kib4} {i : Nat} (hi : i < t.used)
    (hp : p.base.toNat = t.base.toNat + 4096 * (i + 1)) :
    t.tableIn p = .ok (some ⟨i, Nat.lt_of_lt_of_le hi t.used_le⟩) := by
  have lt := p.base.toNat_lt
  obtain ⟨first, hfirst⟩ : ∃ a, t.tableAddress 0 = .ok a := by
    refine ⟨Address.ofNat (t.base.toNat + 4096), (tableAddress_eq_ok_iff (by decide)).2 ?_⟩
    simp only [Address.ofNat, Address.toNat, BitVec.toNat_ofNat] at lt hp ⊢
    omega
  have first_at := (tableAddress_eq_ok_iff (by decide)).1 hfirst
  have distance : sub? p.base.bits first.bits = some (BitVec.ofNat 32 (4096 * i)) := by
    rw [sub?_eq_some_iff, BitVec.toNat_ofNat]
    simp only [Address.toNat] at lt hp first_at
    omega
  have index : (BitVec.ofNat 32 (4096 * i)).toNat / 4096 = i := by
    rw [BitVec.toNat_ofNat]
    omega
  simp only [tableIn, hfirst, bind, Except.bind, distance, index, dif_pos hi]
  rfl

/-! ## Links -/

theorem Links.kind_ne_none {s : Slot} {i : Nat} (h : t.Links s i) :
    (t.dirEntry s).kind ≠ none := by
  obtain ⟨p, kind, -⟩ := h
  simp [kind]

/-- A slot links one table at most. -/
theorem Links.index_unique {s : Slot} {i j : Nat} (hi : t.Links s i) (hj : t.Links s j) :
    i = j := by
  obtain ⟨p, hp, at_i⟩ := hi
  obtain ⟨q, hq, at_j⟩ := hj
  rw [hp] at hq
  cases hq
  omega

/-- Only the slot and the place of the block matter to a link. -/
theorem Links.congr {u : AddressSpace n} {s : Slot} {i : Nat}
    (directory : u.dirEntry s = t.dirEntry s) (base : u.base = t.base) :
    u.Links s i ↔ t.Links s i := by
  rw [Links, Links, directory, base]

namespace WellFormed

/-- **An empty slot means a table less.** Every table that was taken has a slot of its own. -/
theorem used_lt (wf : t.WellFormed) {s : Slot} (free : (t.dirEntry s).kind = none) :
    t.used < slotCount := by
  -- Tables that were taken choose different slots, and none of them chooses the empty one.
  choose slot links using fun i : Fin t.used => wf.taken_linked i i.isLt
  have injective : Function.Injective slot := by
    intro i j same
    have := links j
    rw [← same] at this
    exact Fin.ext ((links i).index_unique this)
  have outside : s ∉ Set.range slot := by
    rintro ⟨i, rfl⟩
    exact (links i).kind_ne_none free
  simpa using Fintype.card_lt_of_injective_of_notMem slot injective outside

/-- A table that is linked was taken. -/
theorem lt_used_of_links (wf : t.WellFormed) {s : Slot} {i : Nat} (h : t.Links s i) :
    i < t.used := by
  have ⟨p, kind, _⟩ := h
  obtain ⟨j, hj, links⟩ := wf.link_taken s p kind
  rw [h.index_unique links]
  exact hj

/-- A table that was not taken has no entry. -/
theorem tableEntry_eq_empty (wf : t.WellFormed) {i : Fin n} (rest : t.used ≤ i.val) (s : Slot) :
    t.tableEntry i s = .empty := by
  show (t.tables.get i)[s] = _
  rw [wf.rest_empty i rest]
  exact Vector.getElem_replicate s.isLt

/-- A table whose link the directory holds is found by its address. -/
theorem tableIn_eq_of_link (wf : t.WellFormed) {s : Slot} {p : PhysPage .kib4}
    (link : (t.dirEntry s).kind = some (.link p)) :
    ∃ i : Fin n, i.val < t.used ∧ t.tableIn p = .ok (some i) ∧
      p.base.toNat = t.base.toNat + 4096 * (i.val + 1) := by
  obtain ⟨i, hi, q, hq, at_i⟩ := wf.link_taken s p link
  rw [link] at hq
  cases hq
  exact ⟨⟨i, Nat.lt_of_lt_of_le hi t.used_le⟩, hi, tableIn_eq_some hi at_i, at_i⟩

end WellFormed

/-! ## The three changes -/

/-- The address space with the next table, which lies at `a`, linked to a slot. -/
def linkNext (t : AddressSpace n) (free : t.used < n) (s : Slot) (user : Bool) (a : PhysAddr) :
    AddressSpace n :=
  { t with used := t.used + 1, used_le := free }.setDirEntry s
    (.ofTable (Flags.kernel.withUser user) (.containing a))

section LinkNext

variable {free : t.used < n} {s : Slot} {user : Bool} {a : PhysAddr}

@[simp] theorem base_linkNext : (t.linkNext free s user a).base = t.base := rfl

@[simp] theorem tableEntry_linkNext (i : Fin n) (r : Slot) :
    (t.linkNext free s user a).tableEntry i r = t.tableEntry i r := rfl

theorem dirEntry_linkNext (r : Slot) :
    (t.linkNext free s user a).dirEntry r =
      if r = s then .ofTable (Flags.kernel.withUser user) (.containing a) else t.dirEntry r :=
  dirEntry_setDirEntry _ s r _

end LinkNext

namespace WellFormed

variable (wf : t.WellFormed)

include wf

/-- The slot links the new table; what the other slots link stays. -/
theorem links_linkNext {s : Slot} (empty : (t.dirEntry s).kind = none) (free : t.used < n)
    (user : Bool) {a : PhysAddr} (at_next : t.tableAddress t.used = .ok a) (r : Slot) (i : Nat) :
    (t.linkNext free s user a).Links r i ↔ r = s ∧ i = t.used ∨ r ≠ s ∧ t.Links r i := by
  have used_lt := wf.used_lt empty
  have place := (tableAddress_eq_ok_iff (Nat.lt_trans used_lt (by decide))).1 at_next
  have page : (Page.containing a : PhysPage .kib4).base = a := by
    apply Page.base_containing_of_aligned
    rw [Address.isAligned_iff_mod, PageSize.toNat_bytes_kib4]
    have := wf.base_aligned
    omega
  have linked : (t.linkNext free s user a).Links s t.used := by
    refine ⟨.containing a, ?_, ?_⟩
    · rw [dirEntry_linkNext, if_pos rfl, DirEntry.kind_ofTable]
    · rw [page, base_linkNext, place]
  by_cases hr : r = s
  · subst hr
    constructor
    · intro links
      exact .inl ⟨rfl, links.index_unique linked⟩
    · rintro (⟨-, rfl⟩ | ⟨hne, -⟩)
      · exact linked
      · exact absurd rfl hne
  · have same : (t.linkNext free s user a).Links r i ↔ t.Links r i :=
      Links.congr (by rw [dirEntry_linkNext, if_neg hr]) rfl
    simp [hr, same]

/-- **A table more, and a link more.** -/
theorem linkNext {s : Slot} (empty : (t.dirEntry s).kind = none) (free : t.used < n) (user : Bool)
    {a : PhysAddr} (at_next : t.tableAddress t.used = .ok a) :
    (t.linkNext free s user a).WellFormed := by
  have links := wf.links_linkNext empty free user at_next
  refine ⟨wf.base_aligned, ?_, ?_, ?_, ?_⟩
  · intro r p kind
    by_cases hr : r = s
    · exact ⟨t.used, Nat.lt_succ_self _, (links r _).2 (.inl ⟨hr, rfl⟩)⟩
    · rw [dirEntry_linkNext, if_neg hr] at kind
      obtain ⟨i, hi, old⟩ := wf.link_taken r p kind
      exact ⟨i, Nat.lt_succ_of_lt hi, (links r i).2 (.inr ⟨hr, old⟩)⟩
  · intro i hi
    rcases Nat.lt_succ_iff_lt_or_eq.1 hi with hi | rfl
    · obtain ⟨r, old⟩ := wf.taken_linked i hi
      have hr : r ≠ s := by
        rintro rfl
        exact old.kind_ne_none empty
      exact ⟨r, (links r i).2 (.inr ⟨hr, old⟩)⟩
    · exact ⟨s, (links s _).2 (.inl ⟨rfl, rfl⟩)⟩
  · intro q r i hq hr
    -- A slot other than `s` links a table that was taken before, so not the new one.
    rcases (links q i).1 hq with ⟨rfl, rfl⟩ | ⟨hqs, old⟩
    · rcases (links r _).1 hr with ⟨rfl, -⟩ | ⟨-, old⟩
      · rfl
      · exact absurd (wf.lt_used_of_links old) (Nat.lt_irrefl _)
    · rcases (links r i).1 hr with ⟨rfl, rfl⟩ | ⟨-, old'⟩
      · exact absurd (wf.lt_used_of_links old) (Nat.lt_irrefl _)
      · exact wf.link_unique q r i old old'
  · intro i hi
    exact wf.rest_empty i (Nat.le_of_succ_le hi)

/-- A page entered into a table that was taken. -/
theorem setTableEntry {i : Fin n} (taken : i.val < t.used) (s : Slot) (e : TableEntry) :
    (t.setTableEntry i s e).WellFormed := by
  refine ⟨wf.base_aligned, wf.link_taken, wf.taken_linked, wf.link_unique, ?_⟩
  intro j hj
  have hne : i.val ≠ j.val := by
    intro same
    have : t.used ≤ j.val := hj
    omega
  show (t.tables.set i.1 _ i.2)[j.val] = _
  rw [Vector.getElem_set_ne _ _ hne]
  exact wf.rest_empty j hj

/-- A page entered into an empty slot of the directory. -/
theorem setPage {s : Slot} (empty : (t.dirEntry s).kind = none) (f : Flags) (p : PhysPage .mib4) :
    (t.setDirEntry s (.ofPage f p)).WellFormed := by
  have same (r : Slot) (i : Nat) : (t.setDirEntry s (.ofPage f p)).Links r i ↔ t.Links r i := by
    by_cases hr : r = s
    · subst hr
      constructor
      · rintro ⟨q, kind, -⟩
        rw [dirEntry_setDirEntry, if_pos rfl, DirEntry.kind_ofPage] at kind
        cases kind
      · intro links
        exact (links.kind_ne_none empty).elim
    · exact Links.congr (by rw [dirEntry_setDirEntry, if_neg hr]) rfl
  refine ⟨wf.base_aligned, ?_, ?_, ?_, wf.rest_empty⟩
  · intro r q kind
    by_cases hr : r = s
    · subst hr
      rw [dirEntry_setDirEntry, if_pos rfl, DirEntry.kind_ofPage] at kind
      cases kind
    · rw [dirEntry_setDirEntry, if_neg hr] at kind
      obtain ⟨i, hi, links⟩ := wf.link_taken r q kind
      exact ⟨i, hi, (same r i).2 links⟩
  · intro i hi
    obtain ⟨r, links⟩ := wf.taken_linked i hi
    exact ⟨r, (same r i).2 links⟩
  · intro q r i hq hr
    exact wf.link_unique q r i ((same q i).1 hq) ((same r i).1 hr)

end WellFormed

/-! ## Room for the tables -/

/-- Every table that a slot could ever ask for has an address. -/
def HasRoom (t : AddressSpace n) : Prop :=
  ∀ i, i < n → i < slotCount → t.base.toNat + 4096 * (i + 1) < 0x100000000

/-- **Where there is room, the next table has an address.** -/
theorem WellFormed.exists_tableAddress (wf : t.WellFormed) (room : t.HasRoom) {s : Slot}
    (empty : (t.dirEntry s).kind = none) (free : t.used < n) :
    ∃ a, t.tableAddress t.used = .ok a := by
  have used_lt := wf.used_lt empty
  have fits := room t.used free used_lt
  refine ⟨Address.ofNat (t.base.toNat + 4096 * (t.used + 1)), ?_⟩
  rw [tableAddress_eq_ok_iff (Nat.lt_trans used_lt (by decide))]
  simp only [Address.ofNat, Address.toNat, BitVec.toNat_ofNat] at fits ⊢
  exact Nat.mod_eq_of_lt fits

end ProtectedBoot.Paging.AddressSpace
