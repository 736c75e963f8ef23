import ProtectedBoot.Paging.Entry
import ProtectedBoot.Proofs.Page

/-!
# What the mapper writes into an entry can be read back

The mapper writes three kinds of entries: links, large leaves and small leaves. Each is in use
whatever its flags say, is of the kind it was written as, names the page it was written with, and
carries the rights of its flags. `Written` collects the entries that the mapper puts into a
directory; what holds of all of them (`Written.blank_of_isLeaf`, `Written.writable_of_link`) holds
of every directory that nobody else writes to.
-/

namespace ProtectedBoot.Paging

open EntryBits

/-! ## Frames -/

section Frames

variable {z : PageSize} {k : Nat}

/-- The frame of an entry is the page that holds the entry itself, read as an address. -/
theorem containing_frame (frame : Field 32 k) (at_shift : frame.offset = z.shift)
    (whole : k + z.shift = 32) (e : Word) :
    (Page.containing ⟨(frame.get e).setWidth 32 <<< z.shift⟩ : PhysPage z) =
      .containing ⟨e⟩ := by
  apply Page.ext_base
  apply Address.ext_toNat
  show (Address.alignDown z _).toNat = (Address.alignDown z _).toNat
  rw [Address.toNat_alignDown, Address.toNat_alignDown]
  have lt := e.isLt
  simp only [Address.toNat, Field.get, at_shift, BitVec.toNat_shiftLeft, BitVec.toNat_setWidth,
    BitVec.extractLsb'_toNat, Nat.shiftLeft_eq, Nat.shiftRight_eq_div_pow]
  obtain rfl : k = 32 - z.shift := by omega
  cases z <;> simp only [PageSize.shift, PageSize.toNat_bytes_kib4, PageSize.toNat_bytes_mib4] <;>
    omega

/-- The number of a page fits into a frame. -/
theorem number_lt (whole : k + z.shift = 32) (p : PhysPage z) : p.number.toNat < Nat.pow 2 k := by
  have count : 0x100000000 / z.bytes.toNat = Nat.pow 2 k := by
    obtain rfl : k = 32 - z.shift := by omega
    cases z <;> rfl
  exact count ▸ p.number_lt

/-- A frame that holds the number of a page names the page. -/
theorem containing_number (whole : k + z.shift = 32) (p : PhysPage z) :
    Page.containing ⟨(p.number.setWidth k).setWidth 32 <<< z.shift⟩ = p := by
  have fits : p.number.toNat < 2 ^ k := number_lt whole p
  have kept : (p.number.setWidth k).setWidth 32 = p.number := by
    apply BitVec.eq_of_toNat_eq
    rw [BitVec.toNat_setWidth, BitVec.toNat_setWidth, Nat.mod_eq_of_lt fits,
      Nat.mod_eq_of_lt p.number.isLt]
  rw [kept]
  exact p.ofNumber_number

theorem smallPage_eq_containing (e : Word) : smallPage e = .containing ⟨e⟩ :=
  containing_frame smallFrame rfl rfl e

theorem largePage_eq_containing (e : Word) : largePage e = .containing ⟨e⟩ :=
  containing_frame largeFrame rfl rfl e

theorem smallPage_of_get {e : Word} {p : PhysPage .kib4}
    (h : smallFrame.get e = p.number.setWidth 20) : smallPage e = p := by
  rw [smallPage, h]
  exact containing_number rfl p

theorem largePage_of_get {e : Word} {p : PhysPage .mib4}
    (h : largeFrame.get e = p.number.setWidth 10) : largePage e = p := by
  rw [largePage, h]
  exact containing_number rfl p

end Frames

/-! ## Rights in the low bits -/

namespace Flags

variable (f : Flags) (e : Word)

@[simp] theorem isSet_writable_common : EntryBits.writable.isSet (f.common e) = f.writable := by
  simp (disch := decide) only [common, Field.isSet_assign_of_disjoint, Field.isSet_assign]

@[simp] theorem isSet_user_common : EntryBits.user.isSet (f.common e) = f.user := by
  simp (disch := decide) only [common, Field.isSet_assign_of_disjoint, Field.isSet_assign]

@[simp] theorem isSet_pageSize_common : pageSize.isSet (f.common e) = pageSize.isSet e := by
  simp (disch := decide) only [common, Field.isSet_assign_of_disjoint]

theorem getLsbD_common {i : Nat} (h : 5 ≤ i) : (f.common e).getLsbD i = e.getLsbD i := by
  have beyond (g : Flag 32) (hg : g.offset < 5) (v : Word) (b : Bool) :
      (g.assign v b).getLsbD i = v.getLsbD i := by
    rw [Field.assign, Field.getLsbD_set, if_neg (by omega)]
  simp (disch := decide) only [common, beyond]

end Flags

/-! ## Links -/

namespace DirEntry

variable (f : Flags) (p : PhysPage .kib4)

@[simp] theorem isPresent_ofTable : (ofTable f p).isPresent = true :=
  Field.isSet_assign _ _ _

@[simp] theorem isLeaf_ofTable : (ofTable f p).isLeaf = false := by
  simp (disch := decide) only [isLeaf, ofTable, Flags.link, withSmallPage,
    Field.isSet_assign_of_disjoint, Field.isSet_set_of_disjoint, Flags.isSet_pageSize_common]
  decide

@[simp] theorem isSet_writable_ofTable : writable.isSet (ofTable f p).bits = f.writable := by
  simp (disch := decide) only [ofTable, Flags.link, withSmallPage,
    Field.isSet_assign_of_disjoint, Field.isSet_set_of_disjoint, Flags.isSet_writable_common]

@[simp] theorem isSet_user_ofTable : user.isSet (ofTable f p).bits = f.user := by
  simp (disch := decide) only [ofTable, Flags.link, withSmallPage,
    Field.isSet_assign_of_disjoint, Field.isSet_set_of_disjoint, Flags.isSet_user_common]

theorem smallPage_ofTable : smallPage (ofTable f p).bits = p := by
  apply smallPage_of_get
  rw [ofTable, Field.get_assign_of_disjoint (by decide), Flags.link, withSmallPage, Field.get_set]

/-- **A link links its table.** -/
@[simp] theorem kind_ofTable : (ofTable f p).kind = some (.link p) := by
  simp [kind, smallPage_ofTable]

end DirEntry

/-! ## Large leaves -/

namespace DirEntry

variable (f : Flags) (p : PhysPage .mib4)

@[simp] theorem isPresent_ofPage : (ofPage f p).isPresent = true := by
  simp (disch := decide) only [isPresent, ofPage, Field.isSet_assign_of_disjoint,
    Field.isSet_assign]

@[simp] theorem isLeaf_ofPage : (ofPage f p).isLeaf = true :=
  Field.isSet_assign _ _ _

@[simp] theorem isSet_writable_ofPage : writable.isSet (ofPage f p).bits = f.writable := by
  simp (disch := decide) only [ofPage, Flags.largeLeaf, withLargePage,
    Field.isSet_assign_of_disjoint, Field.isSet_set_of_disjoint, Flags.isSet_writable_common]

@[simp] theorem isSet_user_ofPage : user.isSet (ofPage f p).bits = f.user := by
  simp (disch := decide) only [ofPage, Flags.largeLeaf, withLargePage,
    Field.isSet_assign_of_disjoint, Field.isSet_set_of_disjoint, Flags.isSet_user_common]

theorem largePage_ofPage : largePage (ofPage f p).bits = p := by
  apply largePage_of_get
  simp (disch := decide) only [ofPage, Flags.largeLeaf, withLargePage,
    Field.get_assign_of_disjoint, Field.get_set]

/-- **A large leaf maps its page.** -/
@[simp] theorem kind_ofPage : (ofPage f p).kind = some (.leaf p) := by
  simp [kind, largePage_ofPage]

/-- Bits 12 to 21 of a large leaf are zero. -/
theorem blank_ofPage : (ofPage f p).bits.extractLsb' 12 10 = 0 := by
  apply BitVec.eq_of_getLsbD_eq
  intro i hi
  have outside {k : Nat} (g : Field 32 k) (hg : g.offset + k ≤ 12 ∨ 22 ≤ g.offset) (v : Word)
      (x : BitVec k) : (g.set v x).getLsbD (12 + i) = v.getLsbD (12 + i) := by
    rw [Field.getLsbD_set, if_neg (by omega)]
  simp (disch := decide) only [BitVec.getLsbD_extractLsb', ofPage, Flags.largeLeaf, withLargePage,
    Field.assign, outside]
  rw [Flags.getLsbD_common f _ (by omega)]
  have initial : ∀ j < 10, largeLeafFormat.initial.getLsbD (12 + j) = false := by decide
  rw [initial i hi]
  simp

end DirEntry

/-! ## Small leaves -/

namespace TableEntry

variable (f : Flags) (p : PhysPage .kib4)

@[simp] theorem isPresent_ofPage : (ofPage f p).isPresent = true :=
  Field.isSet_assign _ _ _

@[simp] theorem isSet_writable_ofPage : writable.isSet (ofPage f p).bits = f.writable := by
  simp (disch := decide) only [ofPage, Flags.smallLeaf, withSmallPage,
    Field.isSet_assign_of_disjoint, Field.isSet_set_of_disjoint, Flags.isSet_writable_common]

@[simp] theorem isSet_user_ofPage : user.isSet (ofPage f p).bits = f.user := by
  simp (disch := decide) only [ofPage, Flags.smallLeaf, withSmallPage,
    Field.isSet_assign_of_disjoint, Field.isSet_set_of_disjoint, Flags.isSet_user_common]

theorem smallPage_ofPage : smallPage (ofPage f p).bits = p := by
  apply smallPage_of_get
  simp (disch := decide) only [ofPage, Flags.smallLeaf, withSmallPage,
    Field.get_assign_of_disjoint, Field.get_set]

/-- **A small leaf maps its page.** -/
@[simp] theorem page?_ofPage : (ofPage f p).page? = some p := by
  simp [page?, smallPage_ofPage]

end TableEntry

/-! ## Slots without an entry -/

theorem DirEntry.kind_eq_none_iff {e : DirEntry} : e.kind = none ↔ e.isPresent = false := by
  rw [kind]
  cases e.isPresent <;> simp

theorem TableEntry.page?_eq_none_iff {e : TableEntry} : e.page? = none ↔ e.isPresent = false := by
  rw [page?]
  cases e.isPresent <;> simp

theorem DirEntry.isPresent_of_kind {e : DirEntry} {k : Kind} (h : e.kind = some k) :
    e.isPresent = true := by
  rw [← Bool.not_eq_false, ← kind_eq_none_iff, h]
  simp

theorem TableEntry.isPresent_of_page? {e : TableEntry} {p : PhysPage .kib4}
    (h : e.page? = some p) : e.isPresent = true := by
  rw [← Bool.not_eq_false, ← page?_eq_none_iff, h]
  simp

/-! ## What the mapper writes into a directory -/

/-- The entries of a directory that nobody but the mapper writes to. -/
inductive Written : DirEntry → Prop where
  | empty : Written .empty
  /-- A link grants every right to write, and user access as it is told. -/
  | table (user : Bool) (p : PhysPage .kib4) :
    Written (.ofTable (Flags.kernel.withUser user) p)
  | page (f : Flags) (p : PhysPage .mib4) : Written (.ofPage f p)

namespace Written

variable {e : DirEntry}

/-- A leaf has nothing but zeros between its flags and its frame. -/
theorem blank_of_isLeaf (h : Written e) (leaf : e.isLeaf = true) :
    e.bits.extractLsb' 12 10 = 0 := by
  cases h with
  | empty => rfl
  | table user p => simp at leaf
  | page f p => exact DirEntry.blank_ofPage f p

/-- A link never forbids to write. -/
theorem writable_of_link (h : Written e) {p : PhysPage .kib4} (link : e.kind = some (.link p)) :
    writable.isSet e.bits = true := by
  cases h with
  | empty => simp at link
  | table user p => exact DirEntry.isSet_writable_ofTable _ p
  | page f p => simp at link

end Written

end ProtectedBoot.Paging
