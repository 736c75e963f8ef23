import ProtectedBoot.Multiboot.Cursor
import ProtectedBoot.Multiboot.MapRecord
import ProtectedBoot.Proofs.Multiboot.Records
import ProtectedBoot.Proofs.Triple

/-!
# Reading a memory map of any bytes

What a map tells is what lies at the offsets of its chain (`MemoryMap.exists_chain`), and as each link
of the chain takes 24 bytes of the map, there are not many (`MemoryMap.length_regionsFrom_le`).

A cursor goes along the same chain, in words. A step finds what reading by numbers finds
(`step_triple`): the sums that are checked lie within a record that was found so far, so none of them
faults, and where the sum that leads behind the record saturates, there is nothing to be read at either
offset. A step that ends the reading leaves the cursor at its place or moves it to the end of the map,
and from either of these there is nothing more to come. So the steps answer with the regions of the map,
one by one, and from then on with nothing (`steps_eq`).
-/

namespace ProtectedBoot.Multiboot

open Attempt (Triple)

variable {w : Nat} {α : Type} {m : MemoryMap} {o behind : Nat} {r : Region}

/-! ## Reading by numbers -/

namespace MemoryMap

/-- A region is read just where the first 24 bytes of its record lie in the map. -/
theorem region?_isSome_iff : (m.region? o).isSome ↔ o + 24 ≤ m.bytes.size := by
  constructor
  · intro found
    obtain ⟨r, found⟩ := Option.isSome_iff_exists.1 found
    simp only [region?, Option.bind_eq_bind, Option.bind_eq_some_iff] at found
    obtain ⟨-, -, -, -, code, at_code, -⟩ := found
    exact m.bytes.word?_isSome_iff.1 (Option.isSome_of_eq_some at_code)
  · intro inside
    have base : (m.bytes.doubleWord? (o + 4)).isSome := m.bytes.doubleWord?_isSome_iff.2 (by omega)
    have length : (m.bytes.doubleWord? (o + 12)).isSome := m.bytes.doubleWord?_isSome_iff.2 (by omega)
    have code : (m.bytes.word? (o + 20)).isSome := m.bytes.word?_isSome_iff.2 (by omega)
    obtain ⟨_, base⟩ := Option.isSome_iff_exists.1 base
    obtain ⟨_, length⟩ := Option.isSome_iff_exists.1 length
    obtain ⟨_, code⟩ := Option.isSome_iff_exists.1 code
    simp only [region?, base, length, code]
    rfl

/-- What it takes to find a region. -/
theorem next_eq_some_iff : m.next o = (some r, behind) ↔
    ∃ size, m.bytes.word? o = some size ∧ 20 ≤ size.toNat ∧ m.region? o = some r ∧
      behind = o + 4 + size.toNat := by
  unfold next recordPayload
  rcases m.bytes.word? o with _ | size
  · simp
  · by_cases small : size.toNat < 20
    · simp [small]
    · rcases m.region? o with _ | q
      · simp [small]
      · simp [small, Nat.not_lt.1 small, eq_comm]

/-- There are two ways to find none: the map ends within the first bytes of a record, or the record is
too small. -/
theorem next_eq_none (ended : m.next o = (none, behind)) :
    (m.bytes.size < o + 24 ∧ behind = o) ∨
      ∃ size, m.bytes.word? o = some size ∧ size.toNat < 20 ∧ behind = m.bytes.size := by
  unfold next recordPayload at ended
  rcases size_read : m.bytes.word? o with _ | size
  · rw [size_read] at ended
    cases ended
    have cut := mt m.bytes.word?_isSome_iff.2 (by rw [size_read]; decide)
    exact .inl ⟨by omega, rfl⟩
  · rw [size_read] at ended
    dsimp only at ended
    split at ended
    · cases ended
      exact .inr ⟨size, rfl, ‹_›, rfl⟩
    · rcases read : m.region? o with _ | q
      · rw [read] at ended
        cases ended
        have cut := mt region?_isSome_iff.2 (by rw [read]; decide)
        exact .inl ⟨by omega, rfl⟩
      · rw [read] at ended
        cases ended

theorem regionsFrom_of_next_none (ended : m.next o = (none, behind)) : m.regionsFrom o = [] := by
  rw [regionsFrom]
  split
  · rfl
  · rename_i found
    rw [ended] at found
    cases found

/-- **Where reading has ended there is nothing more to come**, at whichever place it has ended. -/
theorem regionsFrom_behind (ended : m.next o = (none, behind)) : m.regionsFrom behind = [] := by
  rcases next_eq_none ended with ⟨-, rfl⟩ | ⟨-, -, -, rfl⟩
  · exact regionsFrom_of_next_none ended
  · exact regionsFrom_of_size_lt (by omega)

/-- **The regions of a map are those along its chain.** -/
theorem exists_chain (m : MemoryMap) (o : Nat) :
    ∃ offsets, Chain m.bytes o offsets ∧ offsets.mapM m.region? = some (m.regionsFrom o) := by
  induction o using regionsFrom.induct (m := m) with
  | case1 o behind ended =>
    rw [regionsFrom_of_next_none ended]
    rcases next_eq_none ended with ⟨cut, -⟩ | ⟨size, size_read, small, -⟩
    · exact ⟨[], .cut cut, rfl⟩
    · exact ⟨[], .small size_read small, rfl⟩
  | case2 o r behind found ih =>
    rw [regionsFrom_of_next found]
    obtain ⟨inside, -⟩ := next_progress found
    obtain ⟨size, size_read, enough, read, rfl⟩ := next_eq_some_iff.1 found
    obtain ⟨offsets, chain, all⟩ := ih
    refine ⟨o :: offsets, .record inside size_read enough chain, ?_⟩
    rw [List.mapM_cons, read, all]
    rfl

/-- **Each region takes 24 bytes of the map.** -/
theorem length_regionsFrom_le (m : MemoryMap) (o : Nat) :
    24 * (m.regionsFrom o).length ≤ m.bytes.size - o := by
  induction o using regionsFrom.induct (m := m) with
  | case1 o behind ended =>
    rw [regionsFrom_of_next_none ended]
    exact Nat.zero_le _
  | case2 o r behind found ih =>
    rw [regionsFrom_of_next found, List.length_cons]
    have := next_progress found
    omega

end MemoryMap

/-! ## Reading in words -/

namespace Cursor

/-- The cursor has read what had been read `before`, and since then nothing outside of the map. -/
def ReadsInside (c : Cursor w) (m : MemoryMap) (before : List (Nat × Nat)) : Prop :=
  ∃ more, c.touched = before ++ more ∧ ∀ p ∈ more, p.1 + p.2 ≤ m.bytes.size

variable {before : List (Nat × Nat)}

theorem ReadsInside.here (c : Cursor w) (m : MemoryMap) : c.ReadsInside m c.touched :=
  ⟨[], (List.append_nil _).symm, by simp⟩

theorem ReadsInside.trans {c d : Cursor w} (hc : c.ReadsInside m before)
    (hd : d.ReadsInside m c.touched) : d.ReadsInside m before := by
  obtain ⟨first, all_first, inside_first⟩ := hc
  obtain ⟨second, all_second, inside_second⟩ := hd
  refine ⟨first ++ second, by rw [all_second, all_first, List.append_assoc], ?_⟩
  intro p mem
  rcases List.mem_append.1 mem with mem | mem
  · exact inside_first p mem
  · exact inside_second p mem

/-- The cursor is at its place, and has read nothing outside of the map. -/
def At (m : MemoryMap) (place : BitVec w) (before : List (Nat × Nat)) (c : Cursor w) : Prop :=
  c.offset = place ∧ c.ReadsInside m before

/-- From its place the cursor was led behind the region that is found by numbers, or to the last offset
there is. -/
def Found (m : MemoryMap) (place : BitVec w) (before : List (Nat × Nat)) (r : Region)
    (c : Cursor w) : Prop :=
  (∃ behind, m.next place.toNat = (some r, behind) ∧ c.offset.toNat = min behind (2 ^ w - 1)) ∧
    c.ReadsInside m before

/-- From its place the cursor was led to where reading ends by numbers, which is no fault. -/
def Ended (m : MemoryMap) (place : BitVec w) (before : List (Nat × Nat)) (e : Stop Unit)
    (c : Cursor w) : Prop :=
  (e = .refused () ∧ m.next place.toNat = (none, c.offset.toNat)) ∧ c.ReadsInside m before

/-- **A read** answers what lies in the map, and it ends the reading if nothing does. -/
theorem fetch_triple {value : Nat → Option α} {place offset : BitVec w} {n : Nat}
    (fits : m.bytes.size < 2 ^ w)
    (inside : (value offset.toNat).isSome → offset.toNat + n ≤ m.bytes.size)
    (ends : value offset.toNat = none → m.next place.toNat = (none, place.toNat)) :
    Triple (At m place before) (fetch value offset n)
      (fun v c => value offset.toNat = some v ∧ At m place before c) (Ended m place before) := by
  intro c ⟨here, within⟩
  unfold fetch
  rcases read : value offset.toNat with _ | v
  · rw [Option.bind_fun_none]
    exact ⟨⟨rfl, by rw [here]; exact ends read⟩, within⟩
  · have inside := inside (Option.isSome_of_eq_some read)
    have stop_at : (offset + BitVec.ofNat w n).toNat = offset.toNat + n := by
      rw [BitVec.toNat_add, BitVec.toNat_ofNat, Nat.add_mod_mod, Nat.mod_eq_of_lt (by omega)]
    have stop : add? offset (BitVec.ofNat w n) = some (offset + BitVec.ofNat w n) := by
      rw [add?_eq_some_iff, stop_at, BitVec.toNat_ofNat, Nat.mod_eq_of_lt (by omega)]
    rw [stop, Option.bind_some]
    refine ⟨rfl, here, within.trans ⟨[(offset.toNat, n)], rfl, ?_⟩⟩
    intro p mem
    rw [List.mem_singleton.1 mem]
    exact inside

/-- A field of a record is read, unless the map ends within the first bytes of the record; the sum that
leads to it is no fault, since the bytes before it lie in the map. -/
theorem field_triple {value : Nat → Option α} {place : BitVec w} {k n : Nat} (wide : 32 ≤ w)
    (fits : m.bytes.size < 2 ^ w) (exact : ∀ o, (value o).isSome ↔ o + n ≤ m.bytes.size)
    (led : place.toNat + k ≤ m.bytes.size) (within : k + n ≤ 24)
    (cut : m.bytes.size < place.toNat + 24 → m.next place.toNat = (none, place.toNat)) :
    Triple (At m place before) (field value place (BitVec.ofNat w k) n)
      (fun v c => value (place.toNat + k) = some v ∧ At m place before c) (Ended m place before) := by
  have wide : 2 ^ 32 ≤ 2 ^ w := Nat.pow_le_pow_right (by decide) wide
  have k_at : (BitVec.ofNat w k).toNat = k := by
    rw [BitVec.toNat_ofNat, Nat.mod_eq_of_lt (by omega)]
  obtain ⟨offset, sum, offset_at⟩ := exists_checkedAdd (x := place) (y := BitVec.ofNat w k) (by
    rw [k_at]
    exact Nat.lt_of_le_of_lt led fits)
  rw [k_at] at offset_at
  rw [field, sum, Attempt.ofFaulting_ok_bind, offset_at]
  refine fetch_triple fits (exact _).1 fun none_read => cut ?_
  have outside := mt (exact offset.toNat).2 (by simp [none_read])
  omega

end Cursor

namespace MemoryMap

open Cursor (At Ended Found fetch_triple field_triple)

variable {before : List (Nat × Nat)}

/-- The sum that leads behind a record, cut off at the last offset there is. -/
theorem toNat_behind (wide : 32 ≤ w) (place : BitVec w) (size : Word) :
    (saturatingAdd (saturatingAdd place 4) (size.setWidth w)).toNat =
      min (place.toNat + 4 + size.toNat) (2 ^ w - 1) := by
  have narrow : 2 ^ 32 ≤ 2 ^ w := Nat.pow_le_pow_right (by decide) wide
  have size_lt := size.isLt
  have four : (4 : BitVec w).toNat = 4 := by
    show (BitVec.ofNat w 4).toNat = 4
    rw [BitVec.toNat_ofNat, Nat.mod_eq_of_lt (by omega)]
  have size_at : (size.setWidth w).toNat = size.toNat := by
    rw [BitVec.toNat_setWidth, Nat.mod_eq_of_lt (by omega)]
  rw [toNat_saturatingAdd, toNat_saturatingAdd, BitVec.toNat_allOnes, four, size_at]
  omega

theorem next_of_word?_none (none_read : m.bytes.word? o = none) : m.next o = (none, o) := by
  rw [next, none_read]

theorem next_of_small {size : Word} (size_read : m.bytes.word? o = some size)
    (small : size.toNat < recordPayload) : m.next o = (none, m.bytes.size) := by
  rw [next, size_read]
  exact if_pos small

theorem next_of_cut {size : Word} (size_read : m.bytes.word? o = some size)
    (enough : ¬ size.toNat < recordPayload) (cut : m.bytes.size < o + 24) : m.next o = (none, o) := by
  have none_read : m.region? o = none := by
    rw [← Option.not_isSome_iff_eq_none, region?_isSome_iff]
    omega
  rw [next, size_read]
  dsimp only
  rw [if_neg enough, none_read]

/-- **A step finds what reading by numbers finds**, and no sum faults. -/
theorem step_triple (wide : 32 ≤ w) (fits : m.bytes.size < 2 ^ w) (place : BitVec w) :
    Triple (At m place before) m.step (Found m place before) (Ended m place before) := by
  have look : Triple (At m place before) (Attempt.state : Attempt (Cursor w) Unit _)
      (fun c' c => c'.offset = place ∧ At m place before c) (Ended m place before) :=
    Triple.state fun c here => ⟨here.1, here⟩
  rw [step]
  refine look.bind fun c' => Triple.assuming fun same => ?_
  rw [same]
  refine (fetch_triple fits m.bytes.word?_isSome_iff.1 next_of_word?_none).bind fun size =>
    Triple.assuming fun size_read => ?_
  by_cases small : size.toNat < recordPayload
  · rw [if_pos small]
    have last : (BitVec.ofNat w m.bytes.size).toNat = m.bytes.size := by
      rw [BitVec.toNat_ofNat, Nat.mod_eq_of_lt fits]
    have moved : Triple (At m place before) (Cursor.moveTo (BitVec.ofNat w m.bytes.size))
        (fun _ c => c.offset.toNat = m.bytes.size ∧ c.ReadsInside m before)
        (Ended m place before) :=
      Triple.update fun c here => ⟨last, here.2⟩
    refine moved.bind fun _ => Triple.refuse fun c here => ⟨⟨rfl, ?_⟩, here.2⟩
    rw [here.1]
    exact next_of_small size_read small
  · rw [if_neg small]
    have cut := next_of_cut size_read small
    -- Each field that was read tells that the next one does not begin outside of the map.
    have led := m.bytes.word?_isSome_iff.1 (Option.isSome_of_eq_some size_read)
    refine (field_triple wide fits (fun _ => m.bytes.doubleWord?_isSome_iff) led (by decide) cut).bind
      fun base => Triple.assuming fun base_read => ?_
    have led := m.bytes.doubleWord?_isSome_iff.1 (Option.isSome_of_eq_some base_read)
    refine (field_triple wide fits (fun _ => m.bytes.doubleWord?_isSome_iff) led (by decide) cut).bind
      fun length => Triple.assuming fun length_read => ?_
    have led := m.bytes.doubleWord?_isSome_iff.1 (Option.isSome_of_eq_some length_read)
    refine (field_triple wide fits (fun _ => m.bytes.word?_isSome_iff) led (by decide) cut).bind
      fun code => Triple.assuming fun code_read => ?_
    have found : m.next place.toNat =
        (some ⟨base, length, .ofCode code⟩, place.toNat + 4 + size.toNat) := by
      refine next_eq_some_iff.2 ⟨size, size_read, Nat.not_lt.1 small, ?_, rfl⟩
      rw [region?, base_read, length_read, code_read]
      rfl
    have moved : Triple (At m place before)
        (Cursor.moveTo (saturatingAdd (saturatingAdd place 4) (size.setWidth w)))
        (fun _ => Found m place before ⟨base, length, .ofCode code⟩) (Ended m place before) :=
      Triple.update fun c here => ⟨⟨_, found, toNat_behind wide place size⟩, here.2⟩
    exact moved.bind fun _ => Triple.pure fun c here => here

/-! ## Step by step -/

/-- From an offset that is no word there is nothing to be read, and neither is there from the last word.
-/
theorem regionsFrom_min (fits : m.bytes.size < 2 ^ w) (o : Nat) :
    m.regionsFrom (min o (2 ^ w - 1)) = m.regionsFrom o := by
  by_cases word : o ≤ 2 ^ w - 1
  · rw [Nat.min_eq_left word]
  · rw [regionsFrom_of_size_lt (by omega), regionsFrom_of_size_lt (by omega)]

/-- **A step from anywhere** yields the first of the regions from there on and leaves the others, or
there are none, neither here nor where it leaves the cursor. -/
theorem step_cases (wide : 32 ≤ w) (fits : m.bytes.size < 2 ^ w) (c : Cursor w) :
    (∃ r d, m.step c = (.ok r, d) ∧ c.offset.toNat + 24 ≤ d.offset.toNat ∧
      m.regionsFrom c.offset.toNat = r :: m.regionsFrom d.offset.toNat ∧
      d.ReadsInside m c.touched) ∨
    (∃ d, m.step c = (.error (.refused ()), d) ∧ m.regionsFrom c.offset.toNat = [] ∧
      m.regionsFrom d.offset.toNat = [] ∧ d.ReadsInside m c.touched) := by
  rcases (step_triple wide fits c.offset).ends ⟨rfl, .here c m⟩ with
    ⟨r, d, stepped, ⟨behind, found, d_at⟩, within⟩ | ⟨e, d, stepped, ⟨rfl, ended⟩, within⟩
  · refine .inl ⟨r, d, stepped, ?_, ?_, within⟩
    · have := next_progress found
      omega
    · rw [regionsFrom_of_next found, d_at, regionsFrom_min fits]
  · exact .inr ⟨d, stepped, regionsFrom_of_next_none ended, regionsFrom_behind ended, within⟩

/-- **The steps from anywhere** answer with the regions from there on, one by one, and after the last of
them with nothing; none of them faults, and none reads outside of the map. -/
theorem steps_eq (wide : 32 ≤ w) (fits : m.bytes.size < 2 ^ w) (k : Nat) (c : Cursor w) :
    (m.steps k c).1 = (List.range k).map (fun i => answer (m.regionsFrom c.offset.toNat)[i]?) ∧
      (m.steps k c).2.ReadsInside m c.touched := by
  induction k generalizing c with
  | zero => exact ⟨rfl, .here c m⟩
  | succ k ih =>
    rw [List.range_succ_eq_map, List.map_cons, List.map_map]
    rcases step_cases wide fits c with ⟨r, d, stepped, -, regions, within⟩ |
      ⟨d, stepped, none_here, none_there, within⟩
    · obtain ⟨answers, later⟩ := ih d
      rw [steps, stepped, regions]
      exact ⟨congrArg (List.cons _) answers, within.trans later⟩
    · obtain ⟨answers, later⟩ := ih d
      rw [none_there] at answers
      rw [steps, stepped, none_here]
      exact ⟨congrArg (List.cons _) answers, within.trans later⟩

/-- **Reading a map of any bytes, step by step.** The offset of the machine has 32 bits or more, and the
size of the map is a word of the machine; the bytes are whatever they are.

The regions of the map are those along its chain, and there is one for every 24 bytes at most. The steps
of a reading answer with these regions, one by one, and from then on with nothing, so that a reading
comes to its end, and no step faults; nothing outside of the map is read on the way. Wherever a cursor
stands, a step that yields a region moves it 24 bytes at least, and when a step has yielded none, no
later step yields any. -/
theorem reading_exact (m : MemoryMap) (wide : 32 ≤ w) (fits : m.bytes.size < 2 ^ w) :
    (∃ offsets, Chain m.bytes 0 offsets ∧ offsets.mapM m.region? = some m.regions) ∧
    m.regions.length ≤ m.bytes.size / 24 ∧
    (∀ k, (m.steps k (.start w)).1 = (List.range k).map fun i => answer m.regions[i]?) ∧
    (∀ k, ∀ p ∈ (m.steps k (.start w)).2.touched, p.1 + p.2 ≤ m.bytes.size) ∧
    (∀ (c : Cursor w) r, (m.step c).1 = .ok r →
      c.offset.toNat + 24 ≤ (m.step c).2.offset.toNat) ∧
    (∀ c : Cursor w, (m.step c).1 = answer none →
      ∀ k, (m.steps k (m.step c).2).1 = List.replicate k (answer none)) := by
  have start_at : (Cursor.start w).offset.toNat = 0 := by
    show (BitVec.ofNat w 0).toNat = 0
    rw [BitVec.toNat_ofNat, Nat.zero_mod]
  refine ⟨m.exists_chain 0, ?few, ?answers, ?inside, ?progress, ?ended⟩
  case few =>
    have few := m.length_regionsFrom_le 0
    show (m.regionsFrom 0).length ≤ m.bytes.size / 24
    omega
  case answers =>
    intro k
    have answers := (steps_eq wide fits k (.start w)).1
    rw [start_at] at answers
    exact answers
  case inside =>
    intro k p mem
    obtain ⟨more, all, inside⟩ := (steps_eq wide fits k (.start w)).2
    rw [all] at mem
    exact inside p mem
  case progress =>
    intro c r yields
    rcases step_cases wide fits c with ⟨q, d, stepped, further, -⟩ | ⟨d, stepped, -⟩
    · rw [stepped]
      exact further
    · rw [stepped] at yields
      cases yields
  case ended =>
    intro c ended k
    rcases step_cases wide fits c with ⟨q, d, stepped, -⟩ | ⟨d, stepped, -, none_there, -⟩
    · rw [stepped] at ended
      cases ended
    · rw [stepped, (steps_eq wide fits k d).1, none_there]
      exact List.map_const'.trans (congrArg (List.replicate · _) List.length_range)

/-! ## A record as large as a word can tell -/

/-- A map of 24 bytes whose record says that it takes the largest word there is. The offset behind it is
no word of 32 bits. -/
def overlong : MemoryMap := ⟨.ofList (List.replicate 4 0xFF ++ List.replicate 20 0)⟩

theorem overlong_read : 32 ≤ 32 ∧ overlong.bytes.size < 2 ^ 32 ∧
    overlong.next 0 = (some ⟨0, 0, .reserved 0⟩, 2 ^ 32 + 3) ∧
    (overlong.steps 3 (.start 32)).1 = [answer (some ⟨0, 0, .reserved 0⟩), answer none, answer none] := by
  have fits : overlong.bytes.size < 2 ^ 32 := by decide
  have found : overlong.next 0 = (some ⟨0, 0, .reserved 0⟩, 2 ^ 32 + 3) := by decide
  have regions : overlong.regions = [⟨0, 0, .reserved 0⟩] := by
    rw [MemoryMap.regions, regionsFrom_of_next found, regionsFrom_of_size_lt (by decide)]
  obtain ⟨-, -, answers, -⟩ := reading_exact (w := 32) overlong le_rfl fits
  refine ⟨le_rfl, fits, found, ?_⟩
  rw [answers 3, regions]
  rfl

end MemoryMap

end ProtectedBoot.Multiboot
