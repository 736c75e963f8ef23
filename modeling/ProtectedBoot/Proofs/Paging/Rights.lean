import ProtectedBoot.Proofs.Paging.Range
import ProtectedBoot.Proofs.Paging.Walk

/-!
# Which rights a page has

The paging unit grants what all entries on the way to a page grant. A large page has one entry, and
its rights are those it was mapped with. A small page has two: its own, with the rights it was
mapped with, and the link of its slot, which was written when the first page of the slot was mapped.
The link grants every right to write, but it admits user code only if that first page did
(`admitsUser_of_opened`), and nothing ever changes it. So a user page in a slot that a kernel page
opened stays closed to user code (`Attainable.rights_of_mapPage`).
-/

namespace ProtectedBoot.Paging

open EntryBits

namespace AddressSpace

variable {n : Nat} {t u w : AddressSpace n} {z : PageSize} {va v : VirtAddr} {pa : PhysAddr}
  {f : Flags} {m : Memory}

/-- Whether a new page of size `z` at `va` can be opened to user code: only a link that is there
already stands in the way, if it does not admit user code itself. -/
def admitsUser (t : AddressSpace n) (z : PageSize) (va : VirtAddr) : Bool :=
  match z with
  | .mib4 => true
  | .kib4 => match (t.dirEntry (.inDirectory va)).kind with
    | some (.link _) => user.isSet (t.dirEntry (.inDirectory va)).bits
    | _ => true

/-! ## Entries that stay, as the paging unit sees them -/

/-- What a small page grants in any later address space: what its slot and its entry grant now. -/
theorem Keeps.walk_of_page (kept : u.Keeps w) (lies : w.LiesIn m) {i : Fin n} {p : PhysPage .kib4}
    (links : u.Links (.inDirectory v) i) (entry : u.tableEntry i (.inTable v) = .ofPage f p) :
    walk m w.base v =
      some ⟨p.locate v, user.isSet (u.dirEntry (.inDirectory v)).bits && f.user,
        writable.isSet (u.dirEntry (.inDirectory v)).bits && f.writable⟩ := by
  obtain ⟨q, link, place⟩ := links
  have same := kept.directory _ (DirEntry.isPresent_of_kind link)
  have same_page : w.tableEntry i (.inTable v) = .ofPage f p := by
    rw [← entry]
    exact kept.table _ _ (by rw [entry, TableEntry.isPresent_ofPage])
  have read := lies.directory (.inDirectory v)
  have read_table := lies.table i (.inTable v)
  rw [same] at read
  rw [kept.base, ← place, same_page] at read_table
  rw [walk_of_link read link read_table, TableEntry.page?_ofPage, Option.map_some,
    TableEntry.isSet_user_ofPage, TableEntry.isSet_writable_ofPage]

/-- What a large page grants in any later address space. -/
theorem Keeps.walk_of_largePage (kept : u.Keeps w) (lies : w.LiesIn m) {p : PhysPage .mib4}
    (entry : u.dirEntry (.inDirectory v) = .ofPage f p) :
    walk m w.base v = some ⟨p.locate v, f.user, f.writable⟩ := by
  have read := lies.directory (.inDirectory v)
  rw [kept.directory _ (by rw [entry, DirEntry.isPresent_ofPage]), entry] at read
  rw [walk_of_leaf read (DirEntry.kind_ofPage f p), DirEntry.isSet_user_ofPage,
    DirEntry.isSet_writable_ofPage]

/-! ## A slot that was opened -/

theorem dirEntry_opened (free : t.used < n) (s : Slot) (user : Bool) (a : PhysAddr) (i : Fin n)
    (r : Slot) (e : TableEntry) :
    ((t.linkNext free s user a).setTableEntry i r e).dirEntry s =
      .ofTable (Flags.kernel.withUser user) (.containing a) := by
  rw [dirEntry_setTableEntry, dirEntry_linkNext, if_pos rfl]

/-- **The first small page of a slot decides whether the slot admits user code**, for as long as the
entries stay. -/
theorem admitsUser_of_opened (wf : t.WellFormed) (empty : (t.dirEntry (.inDirectory va)).kind = none)
    (done : mapSmall va pa f t = (.ok (), u)) (kept : u.Keeps w)
    (slot : Slot.inDirectory v = Slot.inDirectory va) : w.admitsUser .kib4 v = f.user := by
  obtain ⟨hva, hpa⟩ := aligned_of_mapPage (z := .kib4) done
  have course := mapSmall_course wf hva hpa f
  rw [done] at course
  cases course with
  | opened _ free a place =>
    have link := dirEntry_opened free (.inDirectory va) f.user a ⟨t.used, free⟩ (.inTable va)
      (.ofPage f (.containing pa))
    have same := kept.directory (.inDirectory va) (by rw [link, DirEntry.isPresent_ofTable])
    rw [admitsUser, slot, same, link, DirEntry.kind_ofTable]
    exact DirEntry.isSet_user_ofTable _ _
  | present i links => exact absurd empty links.kind_ne_none
  | entered i links => exact absurd empty links.kind_ne_none

/-! ## A page that was mapped -/

/-- A small page that was not mapped before. -/
theorem Sound.walk_of_mapSmall (sound : t.Sound) (fresh : t.translate va = .ok none)
    (done : mapSmall va pa f t = (.ok (), u)) (kept : u.Keeps w) (lies : w.LiesIn m)
    (inside : v.toNat / 4096 = va.toNat / 4096) :
    walk m w.base v =
      some ⟨⟨pa.bits + (v.bits - va.bits)⟩, f.user && t.admitsUser .kib4 va, f.writable⟩ := by
  have wf := sound.wellFormed
  obtain ⟨hva, hpa⟩ := aligned_of_mapPage (z := .kib4) done
  obtain ⟨slot, entry_slot⟩ := inDirectory_eq_and_inTable_eq_iff.2 inside
  rw [← locate_containing hva hpa inside]
  have course := mapSmall_course wf hva hpa f
  rw [done] at course
  cases course with
  | opened empty free a place =>
    -- The link is as new as the page, and takes the user bit from it.
    have links := (wf.links_linkNext empty free f.user place (.inDirectory v) t.used).2
      (.inl ⟨slot, rfl⟩)
    rw [kept.walk_of_page (i := ⟨t.used, free⟩) lies links
      (by rw [tableEntry_setTableEntry, if_pos ⟨rfl, entry_slot⟩])]
    rw [slot, dirEntry_opened, DirEntry.isSet_user_ofTable, DirEntry.isSet_writable_ofTable]
    simp [admitsUser, empty, Flags.withUser, Flags.kernel]
  | present i links entry =>
    rw [translate_of_links (wf.lt_used_of_links links) links, entry] at fresh
    cases fresh
  | entered i links blank =>
    rw [← slot] at links
    have ⟨q, link, _⟩ := links
    have grants := (sound.written (.inDirectory v)).writable_of_link link
    rw [kept.walk_of_page (i := i) lies links
      (by rw [tableEntry_setTableEntry, if_pos ⟨rfl, entry_slot⟩])]
    rw [dirEntry_setTableEntry, grants, Bool.true_and, Bool.and_comm]
    simp [admitsUser, ← slot, link]

/-- A large page that was not mapped before. -/
theorem walk_of_mapLarge (fresh : t.translate va = .ok none)
    (done : mapLarge va pa f t = (.ok (), u)) (kept : u.Keeps w) (lies : w.LiesIn m)
    (inside : v.toNat / 4194304 = va.toNat / 4194304) :
    walk m w.base v =
      some ⟨⟨pa.bits + (v.bits - va.bits)⟩, f.user && t.admitsUser .mib4 va, f.writable⟩ := by
  obtain ⟨hva, hpa⟩ := aligned_of_mapPage (z := .mib4) done
  have slot := inDirectory_eq_iff.2 inside
  rw [← locate_containing hva hpa inside]
  have course := mapLarge_course t hva hpa f
  rw [done] at course
  cases course with
  | present leaf =>
    rw [translate_of_leaf leaf] at fresh
    cases fresh
  | entered empty =>
    rw [kept.walk_of_largePage (f := f) (p := .containing pa) lies
      (by rw [dirEntry_setDirEntry, if_pos slot])]
    rw [admitsUser, Bool.and_true]

/-- **A page has the rights it was mapped with, unless its slot keeps user code out.** After any
history without a fault, let a page that is not mapped be mapped with the flags `f`. Whatever is
asked for later, while the block stays where it is, the walk of the paging unit from any address of
the page ends in the frame, allows writes as `f` does, and admits user code if `f` does and the link
that was there before, if any, does too. -/
theorem Attainable.rights_of_mapPage (h : t.Attainable) (fresh : t.translate va = .ok none)
    (done : mapPage z va pa f t = (.ok (), u)) {later : List Request}
    (stays : ∀ r ∈ later, ¬ r.Forgets) (lies : (u.afterAll later).LiesIn m)
    (inside : v.toNat / z.bytes.toNat = va.toNat / z.bytes.toNat) :
    walk m (u.afterAll later).base v =
        some ⟨⟨pa.bits + (v.bits - va.bits)⟩, f.user && t.admitsUser z va, f.writable⟩ ∧
      (walk m (u.afterAll later).base v =
          some ⟨⟨pa.bits + (v.bits - va.bits)⟩, f.user, f.writable⟩ ↔
        (f.user = true → t.admitsUser z va = true)) := by
  have kept := keeps_afterAll stays u
  have rights : walk m (u.afterAll later).base v =
      some ⟨⟨pa.bits + (v.bits - va.bits)⟩, f.user && t.admitsUser z va, f.writable⟩ := by
    cases z with
    | kib4 => exact h.sound.walk_of_mapSmall fresh done kept lies inside
    | mib4 => exact walk_of_mapLarge fresh done kept lies inside
  refine ⟨rights, ?_⟩
  rw [rights]
  cases f.user <;> cases t.admitsUser z va <;> simp

/-- A slot that a page was mapped in, for user code or not. -/
def openedSlot (user : Bool) : AddressSpace 1 :=
  (AddressSpace.empty 1).after (.mapSmall ⟨0⟩ ⟨0x4000⟩ (Flags.kernel.withUser user))

theorem openedSlot_attainable (user : Bool) : (openedSlot user).Attainable := by
  refine Attainable.empty.step _ (Request.survives_of_ok ?_)
  cases user <;> decide +kernel

/-- A user page of a slot that a user page opened is open to user code. -/
theorem rights_in_openedSlot :
    ∃ u, mapPage .kib4 ⟨0x1000⟩ ⟨0x5000⟩ (Flags.kernel.withUser true) (openedSlot true) =
        (.ok (), u) ∧
      ∀ m : Memory, (u.afterAll [.reset ⟨0x1234⟩, .mapSmall ⟨0x2000⟩ ⟨0⟩ .kernel]).LiesIn m →
        walk m (u.afterAll [.reset ⟨0x1234⟩, .mapSmall ⟨0x2000⟩ ⟨0⟩ .kernel]).base ⟨0x1234⟩ =
          some ⟨⟨0x5234⟩, true, true⟩ := by
  have fresh : (openedSlot true).translate ⟨0x1000⟩ = .ok none := by decide +kernel
  have admits : (openedSlot true).admitsUser .kib4 ⟨0x1000⟩ = true := by decide +kernel
  have goes_well : (mapPage .kib4 ⟨0x1000⟩ ⟨0x5000⟩ (Flags.kernel.withUser true)
      (openedSlot true)).1 = .ok () := by decide +kernel
  rcases run : mapPage .kib4 ⟨0x1000⟩ ⟨0x5000⟩ (Flags.kernel.withUser true) (openedSlot true)
    with ⟨e, u⟩
  rw [run] at goes_well
  cases goes_well
  refine ⟨u, rfl, fun m lies => ?_⟩
  have rights := (openedSlot_attainable true).rights_of_mapPage fresh run (v := ⟨0x1234⟩)
    (by decide) lies (by decide)
  exact rights.2.2 fun _ => admits

/-- **A user page of a slot that a kernel page opened is closed to user code**, although its own
entry admits user code. -/
theorem closed_in_openedSlot :
    (openedSlot false).Attainable ∧
      (openedSlot false).translate ⟨0x1000⟩ = .ok none ∧
      ∃ u, mapPage .kib4 ⟨0x1000⟩ ⟨0x5000⟩ (Flags.kernel.withUser true) (openedSlot false) =
          (.ok (), u) ∧
        walk u.image u.base ⟨0x1000⟩ = some ⟨⟨0x5000⟩, false, true⟩ := by
  refine ⟨openedSlot_attainable false, by decide +kernel, _, Prod.ext (by decide +kernel) rfl, ?_⟩
  decide +kernel

end AddressSpace

end ProtectedBoot.Paging
