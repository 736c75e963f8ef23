import ProtectedBoot.Address

/-!
# Pages

A page is named by its first address, and that address is a multiple of the page's size: the
invariant is part of the type, so a page never has to be checked again.
-/

namespace ProtectedBoot

/-- A page of size `z` in the space `s`. -/
structure Page (s : Space) (z : PageSize) where
  base : Address s
  aligned : base.toNat % z.bytes.toNat = 0
deriving DecidableEq

namespace Page

variable {s : Space} {z : PageSize}

/-- The page that holds an address. -/
def containing (a : Address s) : Page s z where
  base := a.alignDown z
  aligned := by
    rw [Address.toNat_alignDown]
    exact Nat.mod_eq_zero_of_dvd (Nat.dvd_sub_mod _)

/-- The page with a given number; bits of the number that no address has are dropped. -/
def ofNumber (n : Word) : Page s z := containing ⟨n <<< z.shift⟩

/-- The position of the page among the pages of its size. -/
def number (p : Page s z) : Word := p.base.bits >>> z.shift

/-- The address in this page that lies where `a` lies in its own. -/
def locate {t : Space} (p : Page s z) (a : Address t) : Address s :=
  ⟨p.base.bits ||| a.offset z⟩

/-- The address `offset` bytes into the page; a fault beyond its end. -/
def join (p : Page s z) (offset : Word) : Except Fault (Address s) :=
  if offset.toNat < z.bytes.toNat then .ok ⟨p.base.bits ||| (offset &&& (z.bytes - 1))⟩
  else .error .offsetOutsidePage

/-- The page after this one, except after the last. -/
def next? (p : Page s z) : Option (Page s z) :=
  match h : p.base.add? z.bytes with
  | some b => some ⟨b, by
      rw [← Address.add?_eq_some_iff.1 h, Nat.add_mod_right]
      exact p.aligned⟩
  | none => none

/-- The page that is reached by taking the next one `n` times, if all of them exist. -/
def after? (p : Page s z) : (n : Nat) → Option (Page s z)
  | 0 => some p
  | n + 1 => (p.after? n).bind next?

/-- The next pages, one for each step, as long as there are any. -/
def walk (p : Page s z) : (steps : Nat) → List (Option (Page s z))
  | 0 => []
  | n + 1 => match p.next? with
    | some q => some q :: q.walk n
    | none => List.replicate (n + 1) none

/-- The page and the offset of an address. -/
def split (a : Address s) : Page s z × Word := (containing a, a.offset z)

instance : Ord (Page s z) := ⟨fun p q => compare p.base q.base⟩

/-- The pages of a list in ascending order, each once. -/
def sortDistinct (l : List (Page s z)) : List (Page s z) :=
  (l.mergeSort fun p q => p.base.toNat ≤ q.base.toNat).eraseDups

/-! ## Text -/

/-- The first address and the size. -/
def text (p : Page s z) : String := p.base.text ++ "/" ++ z.name

/-- The first address with the space and the size. -/
def outline (p : Page s z) : String :=
  let name := match s with
    | .memory => "MemoryPage"
    | .physical => "PhysicalPage"
    | .virtual => "VirtualPage"
  Text.applied (name ++ "<" ++ z.name ++ ">") [Text.hexUpper p.base.bits]

/-! ## Laws -/

theorem ext_base {p q : Page s z} (h : p.base = q.base) : p = q := by
  rcases p with ⟨b, _⟩; rcases q with ⟨c, _⟩
  cases h; rfl

/-- A page that starts at an aligned address starts there. -/
theorem base_containing_of_aligned {a : Address s} (h : a.isAligned z = true) :
    (containing a : Page s z).base = a := by
  apply Address.ext_toNat
  show (a.alignDown z).toNat = _
  rw [Address.toNat_alignDown, Address.isAligned_iff_mod.1 h, Nat.sub_zero]

theorem containing_base (p : Page s z) : containing p.base = p :=
  ext_base (base_containing_of_aligned (Address.isAligned_iff_mod.2 p.aligned))

end Page

/-- A page on the bus. -/
abbrev PhysPage := Page .physical

/-- A page before translation. -/
abbrev VirtPage := Page .virtual

end ProtectedBoot
