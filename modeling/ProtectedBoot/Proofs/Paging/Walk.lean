import ProtectedBoot.Paging.Walk
import ProtectedBoot.Proofs.Paging.Invariant
import ProtectedBoot.Proofs.Paging.Position

/-!
# Translation is what the paging unit does

Where a memory holds the block of an address space, the walk of the paging unit reads the same
entries that translation by the address space looks at (`walk_of_leaf`, `walk_of_link`). The two
agree as soon as every link leads to a table that was taken (`translate_eq`), and so after any
history of requests whose blocks had room (`Reachable.translate_eq_walk`).
-/

namespace ProtectedBoot.Paging

open EntryBits

/-! ## Masks -/

theorem locate_smallPage (e : Word) (va : VirtAddr) :
    (smallPage e).locate va = ⟨(e &&& 0xFFFFF000) ||| (va.bits &&& 0xFFF)⟩ := by
  rw [smallPage_eq_containing]
  rfl

theorem locate_largePage (e : Word) (va : VirtAddr) :
    (largePage e).locate va = ⟨(e &&& 0xFFC00000) ||| (va.bits &&& 0x3FFFFF)⟩ := by
  rw [largePage_eq_containing]
  rfl

/-! ## Kinds of entries, in bits -/

theorem DirEntry.kind_eq_link_iff {e : DirEntry} {p : PhysPage .kib4} :
    e.kind = some (.link p) ↔ e.isPresent = true ∧ e.isLeaf = false ∧ smallPage e.bits = p := by
  rw [kind]
  cases e.isPresent <;> cases e.isLeaf <;> simp

theorem DirEntry.kind_eq_leaf_iff {e : DirEntry} {p : PhysPage .mib4} :
    e.kind = some (.leaf p) ↔ e.isPresent = true ∧ e.isLeaf = true ∧ largePage e.bits = p := by
  rw [kind]
  cases e.isPresent <;> cases e.isLeaf <;> simp

/-! ## What the walk reads -/

section Walk

variable {m : Memory} {directory : PhysAddr} {va : VirtAddr} {e : DirEntry}
  (read : m.word (directory.toNat + 4 * (Slot.inDirectory va).val) = e.bits)

include read

theorem walk_of_empty (empty : e.kind = none) : walk m directory va = none := by
  have absent : e.bits.getLsbD 0 = false := DirEntry.kind_eq_none_iff.1 empty
  have read : m.word (directory.toNat + 4 * (va.bits >>> 22).toNat) = e.bits := read
  simp only [walk, read, absent, Bool.not_false, if_true]

theorem walk_of_leaf {p : PhysPage .mib4} (leaf : e.kind = some (.leaf p)) :
    walk m directory va = some ⟨p.locate va, user.isSet e.bits, writable.isSet e.bits⟩ := by
  obtain ⟨present, large, rfl⟩ := DirEntry.kind_eq_leaf_iff.1 leaf
  have present : e.bits.getLsbD 0 = true := present
  have large : e.bits.getLsbD 7 = true := large
  have read : m.word (directory.toNat + 4 * (va.bits >>> 22).toNat) = e.bits := read
  simp only [walk, read, present, large, Bool.not_true, Bool.false_eq_true, if_false, if_true,
    locate_largePage]
  rfl

theorem walk_of_link {p : PhysPage .kib4} (link : e.kind = some (.link p)) {f : TableEntry}
    (read_table : m.word (p.base.toNat + 4 * (Slot.inTable va).val) = f.bits) :
    walk m directory va = f.page?.map fun q =>
      ⟨q.locate va, user.isSet e.bits && user.isSet f.bits,
        writable.isSet e.bits && writable.isSet f.bits⟩ := by
  obtain ⟨present, small, rfl⟩ := DirEntry.kind_eq_link_iff.1 link
  have present : e.bits.getLsbD 0 = true := present
  have small : e.bits.getLsbD 7 = false := small
  have read : m.word (directory.toNat + 4 * (va.bits >>> 22).toNat) = e.bits := read
  have frame : (smallPage e.bits).base.toNat = (e.bits &&& 0xFFFFF000).toNat := by
    rw [smallPage_eq_containing]
    rfl
  rw [frame, Slot.inTable_val] at read_table
  simp only [walk, read, present, small, read_table, Bool.not_true, Bool.false_eq_true, if_false]
  cases used : f.isPresent with
  | false =>
    have absent : f.bits.getLsbD 0 = false := used
    simp only [absent, Bool.not_false, if_true, TableEntry.page?, used, Bool.false_eq_true, if_false,
      Option.map_none]
  | true =>
    have present : f.bits.getLsbD 0 = true := used
    simp only [present, Bool.not_true, Bool.false_eq_true, if_false, TableEntry.page?, used, if_true,
      Option.map_some, locate_smallPage]
    rfl

end Walk

namespace AddressSpace

variable {n : Nat} {t : AddressSpace n}

/-! ## The walk over an address space -/

/-- **The walk finds what translation finds**, if every link leads to a table that was taken. -/
theorem translate_eq (wf : t.WellFormed) {m : Memory} (lies : t.LiesIn m) (va : VirtAddr) :
    t.translate va = .ok ((walk m t.base va).map Translation.address) := by
  have read := lies.directory (.inDirectory va)
  rw [translate]
  rcases kind : (t.dirEntry (.inDirectory va)).kind with _ | p | p
  · rw [walk_of_empty read kind]
    rfl
  · obtain ⟨i, -, found, place⟩ := wf.tableIn_eq_of_link kind
    have read_table := lies.table i (.inTable va)
    rw [← place] at read_table
    rw [walk_of_link read kind read_table, Option.map_map]
    simp only [found]
    rfl
  · rw [walk_of_leaf read kind]
    rfl

/-- **Translation refines the walk of the paging unit.** After any history of requests whose blocks
had room, and over any memory that holds the block: translation finds exactly what the walk finds,
and it never faults. The large leaves of the directory have nothing but zeros between flags and
frame. -/
theorem Reachable.translate_eq_walk (h : t.Reachable) {m : Memory} (lies : t.LiesIn m) :
    (∀ va, t.translate va = .ok ((walk m t.base va).map Translation.address)) ∧
      ∀ s, (t.dirEntry s).isPresent = true → (t.dirEntry s).isLeaf = true →
        (t.dirEntry s).bits.extractLsb' 12 10 = 0 := by
  obtain ⟨sound, -⟩ := h.sound
  exact ⟨translate_eq sound.wellFormed lies, fun s _ leaf => (sound.written s).blank_of_isLeaf leaf⟩

/-- After some requests: one address goes through a large leaf of the directory, and one through a
page table. -/
theorem translate_eq_walk_after_mixedHistory :
    ((empty 1).afterAll mixedHistory).LiesIn ((empty 1).afterAll mixedHistory).image ∧
      ((empty 1).afterAll mixedHistory).translate ⟨0x401234⟩ = .ok (some ⟨0x801234⟩) ∧
      ((empty 1).afterAll mixedHistory).translate ⟨0x1234⟩ = .ok (some ⟨0x5234⟩) := by
  have reachable := Reachable.empty.afterAll mixedHistory (n := 1) (by decide)
  have lies := liesIn_image ((empty 1).afterAll mixedHistory)
  obtain ⟨walked, -⟩ := reachable.translate_eq_walk lies
  refine ⟨lies, ?_, ?_⟩
  · rw [walked]
    decide +kernel
  · rw [walked]
    decide +kernel

end AddressSpace

end ProtectedBoot.Paging
