import ProtectedBoot.Page
import ProtectedBoot.Proofs.Align

/-!
# Pages, numbers and offsets

A page is its number times its size (`number_mul_bytes`), and an address is the start of its page plus
its offset. Splitting and joining are both this equation, read from either side (`split_eq_iff`,
`join_eq_ok_iff`), so each undoes the other.

The next page has the next number (`next?_eq_some_iff`), and by induction on the steps the page that lies
`n` steps further on has a number that is greater by `n` (`after?_eq_some_iff`). Steps end where the numbers
do (`after?_eq_none_iff`).
-/

namespace ProtectedBoot

variable {s : Space} {z : PageSize}

/-- Pages of either size fill the address space. -/
theorem PageSize.lt_pageCount_iff {n : Nat} :
    n < 0x100000000 / z.bytes.toNat ↔ n * z.bytes.toNat < 0x100000000 :=
  Nat.lt_div_iff_mul_lt_of_dvd (Nat.ne_of_gt z.bytes_pos) (dvd_end z.bytes_isPowerOfTwo)

/-- A number that is moved to its place above the offset keeps all its bits if there is room for it. -/
theorem PageSize.toNat_shiftLeft_shift (z : PageSize) {n : Nat}
    (room : n * z.bytes.toNat < 0x100000000) :
    (BitVec.ofNat 32 n <<< z.shift).toNat = n * z.bytes.toNat := by
  have n_lt : n < 0x100000000 :=
    Nat.lt_of_le_of_lt (Nat.le_mul_of_pos_right n z.bytes_pos) room
  rw [BitVec.toNat_shiftLeft, BitVec.toNat_ofNat, Nat.mod_eq_of_lt n_lt, z.shiftLeft_shift]
  exact Nat.mod_eq_of_lt room

namespace Page

variable {p q : Page s z} {a : Address s} {o : Word} {n : Nat}

/-! ## Numbers -/

theorem toNat_number (p : Page s z) : p.number.toNat = p.base.toNat / z.bytes.toNat := by
  rw [number, BitVec.toNat_ushiftRight, z.shiftRight_shift]
  rfl

theorem dvd_base (p : Page s z) : z.bytes.toNat ∣ p.base.toNat := Nat.dvd_of_mod_eq_zero p.aligned

/-- **A page starts at its number times its size.** -/
theorem number_mul_bytes (p : Page s z) : p.number.toNat * z.bytes.toNat = p.base.toNat := by
  rw [toNat_number, Nat.div_mul_cancel p.dvd_base]

theorem number_lt (p : Page s z) : p.number.toNat < 0x100000000 / z.bytes.toNat := by
  rw [PageSize.lt_pageCount_iff, number_mul_bytes]
  exact p.base.toNat_lt

/-- A page is named by its number. -/
theorem ext_number (same : p.number.toNat = q.number.toNat) : p = q := by
  apply ext_base
  apply Address.ext_toNat
  rw [← number_mul_bytes, same, number_mul_bytes]

/-- Shifting the number of a page back loses no bit. -/
theorem shiftLeft_number (p : Page s z) : p.number <<< z.shift = p.base.bits := by
  apply BitVec.eq_of_toNat_eq
  rw [BitVec.toNat_shiftLeft, z.shiftLeft_shift, number_mul_bytes]
  exact Nat.mod_eq_of_lt p.base.toNat_lt

theorem ofNumber_number (p : Page s z) : ofNumber p.number = p := by
  rw [ofNumber, shiftLeft_number]
  exact containing_base p

/-- Every number below the number of pages is that of a page. -/
theorem exists_number (lt : n < 0x100000000 / z.bytes.toNat) :
    ∃ p : Page s z, p.number.toNat = n := by
  have start : (Address.ofNat (n * z.bytes.toNat) : Address s).toNat = n * z.bytes.toNat :=
    Address.toNat_ofNat (PageSize.lt_pageCount_iff.1 lt)
  refine ⟨⟨.ofNat (n * z.bytes.toNat), ?_⟩, ?_⟩
  · rw [start, Nat.mul_mod_left]
  · rw [toNat_number, start, Nat.mul_div_cancel _ z.bytes_pos]

/-! ## Splitting and joining -/

/-- **An address is split** into the start of its page and the distance from there. -/
theorem split_eq_iff :
    split a = (p, o) ↔ o.toNat < z.bytes.toNat ∧ a.toNat = p.base.toNat + o.toNat := by
  have base_at : (containing a : Page s z).base.toNat = a.toNat - a.toNat % z.bytes.toNat :=
    Address.toNat_alignDown z a
  have offset_at := Address.toNat_offset z a
  have rest_le := Nat.mod_le a.toNat z.bytes.toNat
  rw [split, Prod.mk.injEq]
  constructor
  · rintro ⟨rfl, rfl⟩
    rw [base_at, offset_at]
    exact ⟨Nat.mod_lt _ z.bytes_pos, by omega⟩
  · rintro ⟨inside, at_a⟩
    have rest : a.toNat % z.bytes.toNat = o.toNat := by
      rw [at_a, Nat.add_mod, p.aligned, Nat.zero_add, Nat.mod_mod, Nat.mod_eq_of_lt inside]
    refine ⟨ext_base (Address.ext_toNat ?_), BitVec.eq_of_toNat_eq ?_⟩
    · omega
    · rw [offset_at, rest]

/-- **A page and an offset are joined** to the address at this distance from the start of the page. -/
theorem join_eq_ok_iff :
    p.join o = .ok a ↔ o.toNat < z.bytes.toNat ∧ a.toNat = p.base.toNat + o.toNat := by
  by_cases inside : o.toNat < z.bytes.toNat
  · have rest : (o &&& (z.bytes - 1)).toNat = o.toNat := by
      rw [toNat_and_mask z.bytes_isPowerOfTwo, Nat.mod_eq_of_lt inside]
    have sum : (p.base.bits ||| (o &&& (z.bytes - 1))).toNat = p.base.toNat + o.toNat := by
      rw [toNat_or_of_dvd z.bytes_isPowerOfTwo p.dvd_base (rest ▸ inside), rest]
      rfl
    rw [join, if_pos inside, Except.ok.injEq, and_iff_right inside, ← sum]
    constructor
    · rintro rfl
      rfl
    · intro same
      exact (Address.ext_toNat same).symm
  · rw [join, if_neg inside]
    simp [inside]

/-- Every offset within a page is joined to an address. -/
theorem exists_join (p : Page s z) (inside : o.toNat < z.bytes.toNat) : ∃ a, p.join o = .ok a :=
  ⟨_, if_pos inside⟩

/-- Nothing is joined to a page beyond its end. -/
theorem join_of_le (outside : z.bytes.toNat ≤ o.toNat) : p.join o = .error .offsetOutsidePage :=
  if_neg (Nat.not_lt.2 outside)

/-- **Splitting and joining undo each other.** -/
theorem split_eq_iff_join : split a = (p, o) ↔ p.join o = .ok a := by
  rw [split_eq_iff, join_eq_ok_iff]

/-! ## The pages that follow -/

theorem next?_eq_some_iff_base : p.next? = some q ↔ p.base.add? z.bytes = some q.base := by
  unfold next?
  split
  · rename_i b sum
    refine Iff.trans ?_ (Eq.congr_left sum).symm
    rw [Option.some.injEq, Option.some.injEq]
    constructor
    · rintro rfl
      rfl
    · intro same
      exact ext_base same
  · rename_i sum
    rw [sum]
    simp

/-- **The next page has the next number.** -/
theorem next?_eq_some_iff : p.next? = some q ↔ q.number.toNat = p.number.toNat + 1 := by
  rw [next?_eq_some_iff_base, Address.add?_eq_some_iff, ← number_mul_bytes, ← number_mul_bytes,
    ← Nat.succ_mul, Nat.mul_left_inj (Nat.ne_of_gt z.bytes_pos), eq_comm]

/-- **Step by step**, the numbers grow by one. -/
theorem after?_eq_some_iff : p.after? n = some q ↔ q.number.toNat = p.number.toNat + n := by
  induction n generalizing q with
  | zero =>
    rw [after?, Option.some.injEq, Nat.add_zero]
    constructor
    · rintro rfl
      rfl
    · intro same
      exact (ext_number same).symm
  | succ n ih =>
    rw [after?, Option.bind_eq_some_iff]
    constructor
    · rintro ⟨r, reached, next⟩
      rw [next?_eq_some_iff.1 next, ih.1 reached, Nat.add_assoc]
    · intro at_q
      -- The page before the last step exists, for its number is smaller.
      have q_lt := q.number_lt
      obtain ⟨r, at_r⟩ := exists_number (s := s) (z := z) (n := p.number.toNat + n) (by omega)
      exact ⟨r, ih.2 at_r, next?_eq_some_iff.2 (by omega)⟩

/-- There are steps as long as there are numbers. -/
theorem after?_eq_none_iff :
    p.after? n = none ↔ 0x100000000 / z.bytes.toNat ≤ p.number.toNat + n := by
  rcases reached : p.after? n with _ | q
  · refine iff_of_true rfl (Nat.le_of_not_lt ?_)
    intro lt
    obtain ⟨q, at_q⟩ := exists_number (s := s) lt
    rw [after?_eq_some_iff.2 at_q] at reached
    cases reached
  · have at_q := after?_eq_some_iff.1 reached
    have q_lt := q.number_lt
    exact iff_of_false (Option.some_ne_none q) (by omega)

theorem after?_of_next? (next : p.next? = some q) (n : Nat) : p.after? (n + 1) = q.after? n := by
  have at_q := next?_eq_some_iff.1 next
  apply Option.ext
  intro r
  rw [after?_eq_some_iff, after?_eq_some_iff, at_q]
  omega

/-- **A walk** shows the pages after one step, two steps and so on. -/
theorem walk_eq_map_after? (p : Page s z) (steps : Nat) :
    p.walk steps = (List.range steps).map fun n => p.after? (n + 1) := by
  induction steps generalizing p with
  | zero => rfl
  | succ steps ih =>
    rcases next : p.next? with _ | q
    · -- Without a next page there is none after more steps, either.
      have last : p.after? 1 = none := next
      rw [after?_eq_none_iff] at last
      have ended (n : Nat) : p.after? (n + 1) = none := after?_eq_none_iff.2 (by omega)
      simp only [walk, next, ended, List.map_const', List.length_range]
    · simp only [walk, next, ih, List.range_succ_eq_map, List.map_cons, List.map_map]
      exact congrArg₂ List.cons (after?_of_next? next 0).symm
        (List.map_congr_left fun n _ => (after?_of_next? next (n + 1)).symm)

end Page

end ProtectedBoot
