import ProtectedBoot.Paging.AddressSpace

/-!
# What shows of an address space

Which table of the pool serves which slot depends on the order in which pages were asked for, and so
do the rights that a link grants. A `View` keeps what does not: how many tables were taken, which
size of pages each slot has, and what every address translates to.

What mapping a page does can be said in these terms alone. `View.Admits` are the demands on a request,
`View.Decides` says which of them a refusal names, `View.put` is what a request that meets them makes of
the view, and `View.Run` is a list of them, one after the other.
-/

namespace ProtectedBoot.Paging

/-! ## Requests for pages, one by one and for a range -/

/-- A request to map one page. -/
structure PageRequest where
  size : PageSize
  va : VirtAddr
  pa : PhysAddr
  flags : Flags
deriving DecidableEq

/-- A range that is not empty reaches past the end of its space. One that ends there does not. -/
def Overlong {s : Space} (a : Address s) (len : Word) : Prop :=
  0 < len.toNat ∧ 0x100000000 < a.toNat + len.toNat

namespace PageRequest

/-- The slot of the directory that the page lies in. -/
def slot (r : PageRequest) : Slot := .inDirectory r.va

/-- A page starts at the address, and a frame at its target. -/
def Starts (r : PageRequest) : Prop := r.va.isAligned r.size = true ∧ r.pa.isAligned r.size = true

/-- The address lies in the page. -/
def Covers (r : PageRequest) (a : VirtAddr) : Prop :=
  a.toNat / r.size.bytes.toNat = r.va.toNat / r.size.bytes.toNat

instance (r : PageRequest) (a : VirtAddr) : Decidable (r.Covers a) :=
  inferInstanceAs (Decidable (_ = _))

/-- What an address of the page translates to. -/
def target (r : PageRequest) (a : VirtAddr) : PhysAddr := ⟨r.pa.bits + (a.bits - r.va.bits)⟩

/-- The pages of a range: page `k` of the `count` lies `k` pages behind the start of the range, and so
does its frame. -/
def ofRange (z : PageSize) (va : VirtAddr) (pa : PhysAddr) (f : Flags) (count : Nat) :
    List PageRequest :=
  (List.range count).map fun k =>
    ⟨z, .ofNat (va.toNat + k * z.bytes.toNat), .ofNat (pa.toNat + k * z.bytes.toNat), f⟩

/-- Map the page. -/
def perform {n : Nat} (r : PageRequest) : Edit n Unit :=
  AddressSpace.mapPage r.size r.va r.pa r.flags

/-- Map the pages, one after the other. -/
def performAll {n : Nat} : List PageRequest → Edit n Unit
  | [] => pure ()
  | r :: rest => do
    r.perform
    performAll rest

end PageRequest

/-! ## Views -/

/-- What shows of an address space. -/
@[ext]
structure View where
  /-- The number of tables taken from the pool. -/
  used : Nat
  /-- The size of the pages in a slot, unless it is empty. -/
  pages : Slot → Option PageSize
  translation : VirtAddr → Except Fault (Option PhysAddr)

namespace AddressSpace

variable {n : Nat}

/-- The size of the pages in a slot: small ones if it has a table. -/
def pagesAt (t : AddressSpace n) (s : Slot) : Option PageSize :=
  (t.dirEntry s).kind.map fun
    | .link _ => .kib4
    | .leaf _ => .mib4

/-- What shows of the address space. -/
def view (t : AddressSpace n) : View where
  used := t.used
  pages := t.pagesAt
  translation := t.translate

end AddressSpace

namespace View

/-- The request needs a table from the pool: it is for a small page in an empty slot. -/
def Opens (v : View) (r : PageRequest) : Prop := r.size = .kib4 ∧ v.pages r.slot = none

instance (v : View) (r : PageRequest) : Decidable (v.Opens r) :=
  inferInstanceAs (Decidable (_ ∧ _))

/-- What is demanded of a request, where the pool has `n` tables. -/
structure Admits (n : Nat) (v : View) (r : PageRequest) : Prop where
  starts : r.Starts
  /-- The slot has no pages of the other size. -/
  size : v.pages r.slot = none ∨ v.pages r.slot = some r.size
  /-- The pool has a table if one is needed. -/
  room : v.Opens r → v.used < n
  /-- The page is not mapped to another frame. -/
  frame : v.translation r.va = .ok none ∨ v.translation r.va = .ok (some r.pa)

/-- The slot has pages of the other size. -/
def Conflicts (v : View) (r : PageRequest) : Prop := ∃ z, v.pages r.slot = some z ∧ z ≠ r.size

/-- The request needs a table, and all `n` of the pool are taken. -/
def Exhausts (n : Nat) (v : View) (r : PageRequest) : Prop := v.Opens r ∧ v.used = n

/-- The page is mapped to another frame, which starts at `a`. -/
def Occupied (v : View) (r : PageRequest) (a : PhysAddr) : Prop :=
  v.translation r.va = .ok (some a) ∧ a ≠ r.pa

/-- The answer to a request is the right one, where the pool has `n` tables. The demands come in a
fixed order, and a refusal names the first of them that is not met. -/
structure Decides (n : Nat) (v : View) (r : PageRequest)
    (answer : Except (Stop PagingError) Unit) : Prop where
  misaligned : (∃ a, answer = .error (.refused (.misaligned a r.size.bytes))) ↔ ¬ r.Starts
  /-- Of two addresses at which no page starts, the virtual one is named. -/
  misaligned_named : ∀ a, answer = .error (.refused (.misaligned a r.size.bytes)) →
    a = if r.va.isAligned r.size then r.pa.bits else r.va.bits
  conflicting : r.Starts →
    (answer = .error (.refused (.conflictingLargePage r.va)) ↔ v.Conflicts r)
  outOfTables : r.Starts → ¬ v.Conflicts r →
    (answer = .error (.refused (.outOfTables n)) ↔ v.Exhausts n r)
  alreadyMapped : r.Starts → ¬ v.Conflicts r → ¬ v.Exhausts n r →
    ∀ a, answer = .error (.refused (.alreadyMapped r.va a)) ↔ v.Occupied r a
  ok : answer = .ok () ↔
    r.Starts ∧ ¬ v.Conflicts r ∧ ¬ v.Exhausts n r ∧ ∀ a, ¬ v.Occupied r a

/-- The view with a page mapped. -/
def put (v : View) (r : PageRequest) : View where
  used := if v.Opens r then v.used + 1 else v.used
  pages s := if s = r.slot then some r.size else v.pages s
  translation a := if r.Covers a then .ok (some (r.target a)) else v.translation a

/-- Each of the requests is admitted after those before it, and they lead from one view to the
other. -/
inductive Run (n : Nat) : View → List PageRequest → View → Prop where
  | nil {v : View} : Run n v [] v
  | cons {v w : View} {r : PageRequest} {rest : List PageRequest} (admitted : v.Admits n r)
      (run : Run n (v.put r) rest w) : Run n v (r :: rest) w

end View

end ProtectedBoot.Paging
