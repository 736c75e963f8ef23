import ProtectedBoot.Proofs.Paging.Entry

/-!
# Entries are written and read without loss

The three layouts share bits 0 to 4, and the two kinds of leaves share bit 8. Those are the bits that
flags are read from (`Flags.ofLeaf_eq_iff`); a frame is the number of a page, and its bits lie above
them (`getLsbD_set_frame`). So the flags and the page of an entry come out of it as they were put in,
and a leaf that has no other bit set is what is written from its own flags and its own page
(`smallLeaf_ofLeaf`, `largeLeaf_ofLeaf`). A directory entry is decoded as what it was written as
(`DirEntry.decode_ofTable`, `DirEntry.decode_ofPage`).
-/

namespace ProtectedBoot.Paging

open EntryBits

/-! ## Frames -/

section Frames

variable {z : PageSize} {k : Nat} {frame : Field 32 k}

/-- The range check of a frame lets every page through. -/
theorem put_number (whole : k + z.shift = 32) (e : Word) (p : PhysPage z) :
    frame.put e p.number.toNat = .ok (frame.set e (p.number.setWidth k)) := by
  rw [Field.put_of_lt frame e (number_lt whole p), BitVec.ofNat_toNat]

/-- The frame of an entry holds the number of the page that the entry names. -/
theorem get_frame (at_shift : frame.offset = z.shift) (whole : k + z.shift = 32) (e : Word) :
    frame.get e = (Page.containing ⟨e⟩ : PhysPage z).number.setWidth k := by
  apply BitVec.eq_of_toNat_eq
  have base_at : (Page.containing ⟨e⟩ : PhysPage z).base.toNat = e.toNat - e.toNat % z.bytes.toNat :=
    Address.toNat_alignDown z ⟨e⟩
  rw [Address.toNat] at base_at
  have lt := e.isLt
  simp only [Field.get, Page.number, at_shift, base_at, BitVec.toNat_setWidth,
    BitVec.extractLsb'_toNat, BitVec.toNat_ushiftRight, Nat.shiftRight_eq_div_pow]
  obtain rfl : k = 32 - z.shift := by omega
  cases z <;> simp only [PageSize.shift, PageSize.toNat_bytes_kib4, PageSize.toNat_bytes_mib4] <;>
    omega

/-- Writing the page that an entry names gives the bits of the entry from the frame on, and changes
nothing below. -/
theorem getLsbD_set_frame (at_shift : frame.offset = z.shift) (whole : k + z.shift = 32) (v e : Word)
    {i : Nat} (i_lt : i < 32) :
    (frame.set v ((Page.containing ⟨e⟩ : PhysPage z).number.setWidth k)).getLsbD i =
      if z.shift ≤ i then e.getLsbD i else v.getLsbD i := by
  rw [← get_frame at_shift whole, Field.getLsbD_set, at_shift]
  by_cases above : z.shift ≤ i
  · have inside : i - z.shift < k := by omega
    rw [if_pos ⟨above, by omega⟩, if_pos above, Field.get, BitVec.getLsbD_extractLsb', at_shift,
      Nat.add_sub_cancel' above]
    simp [inside]
  · rw [if_neg (fun inside => above inside.1), if_neg above]

end Frames

/-! ## Flags -/

namespace Flags

variable (f : Flags) (e : Word)

/-- **Where the flags of a leaf stand.** -/
theorem ofLeaf_eq_iff {e e' : Word} :
    ofLeaf e = ofLeaf e' ↔ ∀ i, i ≤ 4 ∨ i = 8 → e.getLsbD i = e'.getLsbD i := by
  rw [ofLeaf, ofLeaf, mk.injEq]
  constructor
  · rintro ⟨h₀, h₁, h₂, h₃, h₄, h₈⟩ i place
    rcases (by omega : i = 0 ∨ i = 1 ∨ i = 2 ∨ i = 3 ∨ i = 4 ∨ i = 8) with
      rfl | rfl | rfl | rfl | rfl | rfl
    · exact h₀
    · exact h₁
    · exact h₂
    · exact h₃
    · exact h₄
    · exact h₈
  · intro same
    exact ⟨same 0 (by omega), same 1 (by omega), same 2 (by omega), same 3 (by omega),
      same 4 (by omega), same 8 (by omega)⟩

/-- A write to another field does not change the flags. -/
theorem ofLeaf_set {k : Nat} {g : Field 32 k}
    (apart : ∀ i, i ≤ 4 ∨ i = 8 → ¬ (g.offset ≤ i ∧ i < g.offset + k)) (x : BitVec k) :
    ofLeaf (g.set e x) = ofLeaf e := by
  rw [ofLeaf_eq_iff]
  intro i place
  rw [Field.getLsbD_set, if_neg (apart i place)]

/-- The flags of a leaf, written over any word. -/
def inLeaf : Word := EntryBits.global.assign (f.common e) f.global

theorem ofLeaf_inLeaf : ofLeaf (f.inLeaf e) = f := by
  rw [ofLeaf, inLeaf]
  simp (disch := decide) only [common, Field.isSet_assign_of_disjoint, Field.isSet_assign]

/-- Bits that hold no flag are as they were. -/
theorem getLsbD_inLeaf {i : Nat} (behind : 5 ≤ i) (other : i ≠ 8) :
    (f.inLeaf e).getLsbD i = e.getLsbD i := by
  have at_eight : EntryBits.global.offset = 8 := rfl
  rw [inLeaf, Field.assign, Field.getLsbD_set, at_eight, if_neg (by omega), getLsbD_common f e behind]

/-- An entry that is made present has its other flags as before. -/
theorem ofLeaf_assign_present (b : Bool) :
    ofLeaf (EntryBits.present.assign e b) = { ofLeaf e with present := b } := by
  rw [ofLeaf, ofLeaf]
  simp (disch := decide) only [Field.isSet_assign_of_disjoint, Field.isSet_assign]

/-- The page size of a leaf is none of its flags. -/
theorem ofLeaf_assign_pageSize (b : Bool) : ofLeaf (pageSize.assign e b) = ofLeaf e := by
  have at_seven : pageSize.offset = 7 := rfl
  exact ofLeaf_set e (by omega) _

/-! ## Leaves -/

theorem smallLeaf_eq (p : PhysPage .kib4) : f.smallLeaf p = withSmallPage (f.inLeaf 0) p := rfl

theorem largeLeaf_eq (p : PhysPage .mib4) : f.largeLeaf p = withLargePage (f.inLeaf 0x80) p := rfl

/-- The flags of a small leaf are those that were written. -/
theorem ofLeaf_smallLeaf (p : PhysPage .kib4) : ofLeaf (f.smallLeaf p) = f := by
  have at_twelve : smallFrame.offset = 12 := rfl
  rw [smallLeaf_eq, withSmallPage, ofLeaf_set _ (by omega), ofLeaf_inLeaf]

/-- The flags of a large leaf are those that were written. -/
theorem ofLeaf_largeLeaf (p : PhysPage .mib4) : ofLeaf (f.largeLeaf p) = f := by
  have at_twenty_two : largeFrame.offset = 22 := rfl
  rw [largeLeaf_eq, withLargePage, ofLeaf_assign_pageSize, ofLeaf_set _ (by omega), ofLeaf_inLeaf]

/-- A leaf is determined by its flags and by its other bits. -/
theorem leaf_ext {e e' : Word} (flags : ofLeaf e = ofLeaf e')
    (rest : ∀ i, i < 32 → 5 ≤ i → i ≠ 8 → e.getLsbD i = e'.getLsbD i) : e = e' := by
  apply BitVec.eq_of_getLsbD_eq
  intro i i_lt
  by_cases place : i ≤ 4 ∨ i = 8
  · exact ofLeaf_eq_iff.1 flags i place
  · exact rest i i_lt (by omega) (by omega)

/-- Flags and page of an entry, written over a word that has the same bits between them, give the
entry. -/
theorem set_frame_ofLeaf {z : PageSize} {k : Nat} {frame : Field 32 k} (at_shift : frame.offset = z.shift)
    (whole : k + z.shift = 32) {v e : Word}
    (between : ∀ i < z.shift, 5 ≤ i → i ≠ 8 → e.getLsbD i = v.getLsbD i) :
    frame.set ((ofLeaf e).inLeaf v) ((Page.containing ⟨e⟩ : PhysPage z).number.setWidth k) = e := by
  have above : 12 ≤ z.shift := by cases z <;> decide
  apply leaf_ext
  · rw [ofLeaf_set _ (by omega), ofLeaf_inLeaf]
  · intro i i_lt behind other
    rw [getLsbD_set_frame at_shift whole _ _ i_lt]
    by_cases framed : z.shift ≤ i
    · exact if_pos framed
    · rw [if_neg framed, getLsbD_inLeaf _ _ behind other]
      exact (between i (Nat.lt_of_not_le framed) behind other).symm

/-- **A small leaf is written from what is read from it**, if it has no bits but those of its flags and
its frame. -/
theorem smallLeaf_ofLeaf {e : Word}
    (clear : ∀ i < 32, e.getLsbD i = true → i ≤ 4 ∨ i = 8 ∨ 12 ≤ i) :
    (ofLeaf e).smallLeaf (smallPage e) = e := by
  rw [smallLeaf_eq, withSmallPage, smallPage_eq_containing]
  apply set_frame_ofLeaf rfl rfl
  intro i below behind other
  have below : i < 12 := below
  rw [BitVec.ofNat_eq_ofNat, BitVec.getLsbD_zero, ← Bool.not_eq_true]
  intro lit
  have := clear i (by omega) lit
  omega

/-- **A large leaf is written from what is read from it**, if it has no bits but those of its flags, its
frame and the page size. -/
theorem largeLeaf_ofLeaf {e : Word} (large : pageSize.isSet e = true)
    (clear : ∀ i < 32, e.getLsbD i = true → i ≤ 4 ∨ i = 7 ∨ i = 8 ∨ 22 ≤ i) :
    (ofLeaf e).largeLeaf (largePage e) = e := by
  have initial : ∀ i < 32, (0x80 : Word).getLsbD i = decide (i = 7) := by decide
  rw [largeLeaf_eq, withLargePage, largePage_eq_containing, set_frame_ofLeaf rfl rfl,
    Field.assign_of_isSet large]
  intro i below behind other
  have below : i < 22 := below
  rw [initial i (by omega)]
  by_cases seventh : i = 7
  · subst seventh
    exact large
  · rw [decide_eq_false seventh, ← Bool.not_eq_true]
    intro lit
    have := clear i (by omega) lit
    omega

end Flags

/-! ## Entries in use -/

theorem TableEntry.ofLeaf_ofPage (f : Flags) (p : PhysPage .kib4) :
    Flags.ofLeaf (TableEntry.ofPage f p).bits = { f with present := true } := by
  rw [TableEntry.ofPage, Flags.ofLeaf_assign_present, Flags.ofLeaf_smallLeaf]

namespace DirEntry

variable (f : Flags)

theorem ofLeaf_ofPage (p : PhysPage .mib4) :
    Flags.ofLeaf (ofPage f p).bits = { f with present := true } := by
  rw [ofPage, Flags.ofLeaf_assign_pageSize, Flags.ofLeaf_assign_present, Flags.ofLeaf_largeLeaf]

/-- **A large leaf is decoded as a leaf**, never as a link. -/
theorem decode_ofPage (p : PhysPage .mib4) :
    (ofPage f p).decode = some (.leaf p (ofPage f p).bits) := by
  rw [decode, if_pos (isPresent_ofPage f p), if_pos (isLeaf_ofPage f p), largePage_ofPage]

/-- **A link is decoded as a link**, never as a leaf. -/
theorem decode_ofTable (p : PhysPage .kib4) :
    (ofTable f p).decode = some (.link p (ofTable f p).bits) := by
  have no_leaf : ¬ (ofTable f p).isLeaf = true := by simp
  rw [decode, if_pos (isPresent_ofTable f p), if_neg no_leaf, smallPage_ofTable]

/-- A link has the flags it was written with, but is never global. -/
theorem ofLeaf_ofTable (p : PhysPage .kib4) :
    Flags.ofLeaf (ofTable f p).bits = { f with present := true, global := false } := by
  have at_twelve : smallFrame.offset = 12 := rfl
  have at_eight : EntryBits.global.isSet (f.common 0) = false := Flags.getLsbD_common f 0 (by decide)
  -- Without its frame, the link is what a leaf starts with that is not global.
  have as_leaf : f.common 0 = ({ f with global := false } : Flags).inLeaf 0 :=
    (Field.assign_of_isSet at_eight).symm
  rw [ofTable, Flags.ofLeaf_assign_present, Flags.link, withSmallPage, Flags.ofLeaf_set _ (by omega)]
  show { Flags.ofLeaf (f.common 0) with present := true } = _
  rw [as_leaf, Flags.ofLeaf_inLeaf]

/-- Bits 5 to 11 of a link are zero. -/
theorem getLsbD_ofTable (p : PhysPage .kib4) {i : Nat} (behind : 5 ≤ i) (below : i < 12) :
    (ofTable f p).bits.getLsbD i = false := by
  have at_zero : present.offset = 0 := rfl
  have at_twelve : smallFrame.offset = 12 := rfl
  rw [ofTable, Field.assign, Field.getLsbD_set, if_neg (by omega), Flags.link, withSmallPage,
    Field.getLsbD_set, if_neg (by omega), Flags.getLsbD_common f _ behind]
  exact BitVec.getLsbD_zero

end DirEntry

/-! ## There and back -/

/-- **Entries lose nothing and keep their kind.** Every page passes the range check of its frame. What
is written for a page and any flags is in use, is decoded as what it was written as, and yields the page
and the flags; a link yields the flags that it has room for, and has no other bit below its frame. In
the other direction, a leaf of either size that has no bits but those of its layout's flags and frame is
written again from the flags and the page that are read from it. -/
theorem entries_lossless :
    (∀ (e : Word) (p : PhysPage .kib4), smallFrame.put e p.number.toNat = .ok (withSmallPage e p)) ∧
    (∀ (e : Word) (p : PhysPage .mib4),
      (largeFrame.put e p.number.toNat).map (pageSize.assign · true) = .ok (withLargePage e p)) ∧
    (∀ (f : Flags) (p : PhysPage .kib4),
      (TableEntry.ofPage f p).page? = some p ∧
        Flags.ofLeaf (TableEntry.ofPage f p).bits = { f with present := true }) ∧
    (∀ (f : Flags) (p : PhysPage .mib4),
      ∃ e, (DirEntry.ofPage f p).decode = some (.leaf p e) ∧
        Flags.ofLeaf e = { f with present := true }) ∧
    (∀ (f : Flags) (p : PhysPage .kib4),
      ∃ e, (DirEntry.ofTable f p).decode = some (.link p e) ∧
        present.isSet e = true ∧ writable.isSet e = f.writable ∧ user.isSet e = f.user ∧
        writeThrough.isSet e = f.writeThrough ∧ cacheDisable.isSet e = f.cacheDisable ∧
        ∀ i, 5 ≤ i → i < 12 → e.getLsbD i = false) ∧
    (∀ e : Word, (∀ i < 32, e.getLsbD i = true → i ≤ 4 ∨ i = 8 ∨ 12 ≤ i) →
      (Flags.ofLeaf e).smallLeaf (smallPage e) = e) ∧
    (∀ e : Word, pageSize.isSet e = true →
      (∀ i < 32, e.getLsbD i = true → i ≤ 4 ∨ i = 7 ∨ i = 8 ∨ 22 ≤ i) →
      (Flags.ofLeaf e).largeLeaf (largePage e) = e) := by
  refine ⟨fun e p => put_number rfl e p, ?large_frame, ?small, ?large, ?link,
    fun e clear => Flags.smallLeaf_ofLeaf clear, fun e large clear => Flags.largeLeaf_ofLeaf large clear⟩
  case large_frame =>
    intro e p
    rw [put_number (z := .mib4) rfl e p]
    rfl
  case small =>
    intro f p
    exact ⟨TableEntry.page?_ofPage f p, TableEntry.ofLeaf_ofPage f p⟩
  case large =>
    intro f p
    exact ⟨_, DirEntry.decode_ofPage f p, DirEntry.ofLeaf_ofPage f p⟩
  case link =>
    intro f p
    have flags := DirEntry.ofLeaf_ofTable f p
    refine ⟨_, DirEntry.decode_ofTable f p, congrArg Flags.present flags,
      congrArg Flags.writable flags, congrArg Flags.user flags, congrArg Flags.writeThrough flags,
      congrArg Flags.cacheDisable flags, ?_⟩
    intro i behind below
    exact DirEntry.getLsbD_ofTable f p behind below

/-- The last page of either size, global and not cached. -/
theorem entries_lossless_last :
    (Flags.ofLeaf 0xFFFFF113).smallLeaf (smallPage 0xFFFFF113) = 0xFFFFF113 ∧
    (Flags.ofLeaf 0xFFC00193).largeLeaf (largePage 0xFFC00193) = 0xFFC00193 := by
  obtain ⟨-, -, -, -, -, small, large⟩ := entries_lossless
  exact ⟨small _ (by decide), large _ (by decide) (by decide)⟩

end ProtectedBoot.Paging
