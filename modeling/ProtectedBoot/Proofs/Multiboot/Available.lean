import ProtectedBoot.Multiboot.BootInfo
import ProtectedBoot.Proofs.Multiboot.Records

/-!
# What is free according to the boot loader

Whether a range is free is decided by the first free region that its first address lies in: the answer
is yes if the last address lies there as well (`rangeIsAvailable_eq`). Cutting the regions off at the
last address there is changes nothing for addresses of 32 bits (`Region.contains_iff`), so a yes is
always right. A no is wrong where that first region breaks off within the range and a later one, which
overlaps it, does not; where free regions do not overlap, no answer is wrong
(`rangeIsAvailable_exact`).
-/

namespace ProtectedBoot.Multiboot

variable {start stop : Word}

/-! ## Regions -/

namespace Region

variable {q r : Region}

theorem toNat_limit (r : Region) : r.limit.toNat = min r.stop (2 ^ 64 - 1) :=
  toNat_saturatingAdd r.base r.length

/-- A small address lies in a region just if it does over the naturals. -/
theorem contains_iff {a : DoubleWord} (small : a.toNat < 2 ^ 64 - 1) :
    r.contains a = true ↔ r.base.toNat ≤ a.toNat ∧ a.toNat < r.stop := by
  have limit := r.toNat_limit
  unfold contains
  rw [decide_eq_true_eq]
  omega

section Ends

variable {first last : DoubleWord} (first_at : first.toNat = start.toNat)
  (last_at : last.toNat + 1 = stop.toNat) (ordered : start.toNat < stop.toNat)

include first_at last_at ordered

/-- A free region with the first address and the last spans the range. -/
theorem spans_iff : r.Spans start stop ↔
    (r.isAvailable && r.contains first) = true ∧ r.contains last = true := by
  have stop_lt := stop.isLt
  rw [Bool.and_eq_true, contains_iff (by omega), contains_iff (by omega), isAvailable,
    decide_eq_true_eq, first_at]
  unfold Spans
  constructor
  · rintro ⟨free, base_le, le_stop⟩
    exact ⟨⟨free, base_le, by omega⟩, by omega, by omega⟩
  · rintro ⟨⟨free, base_le, -⟩, -, last_lt⟩
    exact ⟨free, base_le, by omega⟩

/-- A free region with the first address that has not the last breaks off in between. -/
theorem breaksOff_iff : r.BreaksOff start stop ↔
    (r.isAvailable && r.contains first) = true ∧ ¬ r.contains last = true := by
  have stop_lt := stop.isLt
  rw [Bool.and_eq_true, contains_iff (by omega), contains_iff (by omega), isAvailable,
    decide_eq_true_eq, first_at]
  unfold BreaksOff
  constructor
  · rintro ⟨free, base_le, lt_stop, short⟩
    exact ⟨⟨free, base_le, lt_stop⟩, by omega⟩
  · rintro ⟨⟨free, base_le, lt_stop⟩, outside⟩
    exact ⟨free, base_le, lt_stop, by omega⟩

end Ends

/-- A region that breaks off within a range overlaps those that span it. -/
theorem BreaksOff.not_apart (breaks : q.BreaksOff start stop) (spans : r.Spans start stop)
    (ordered : start.toNat < stop.toNat) : ¬ q.Apart r := by
  obtain ⟨-, q_base, q_holds, -⟩ := breaks
  obtain ⟨-, r_base, r_holds⟩ := spans
  rintro (q_first | r_first)
  · omega
  · omega

end Region

/-! ## The first region -/

/-- The first element with `p` has `q` just if some element has both, and none before it has `p`
without `q`. -/
theorem any_find?_iff {α : Type} (p q : α → Bool) (l : List α) :
    (l.find? p).any q = true ↔ ∃ before a after, l = before ++ a :: after ∧
      (p a = true ∧ q a = true) ∧ ∀ x ∈ before, ¬ (p x = true ∧ ¬ q x = true) := by
  constructor
  · intro found
    rcases first : l.find? p with _ | a
    · rw [first] at found
      cases found
    · rw [first] at found
      obtain ⟨has, before, after, split, none_before⟩ := List.find?_eq_some_iff_append.1 first
      refine ⟨before, a, after, split, ⟨has, found⟩, ?_⟩
      rintro x mem ⟨has_x, -⟩
      have := none_before x mem
      rw [has_x] at this
      cases this
  · rintro ⟨before, a, after, rfl, ⟨has, good⟩, none_before⟩
    -- The element that is found lies in `before` and is good there, or it is `a`.
    induction before with
    | nil =>
      rw [List.nil_append, List.find?_cons_of_pos has]
      exact good
    | cons x before ih =>
      rw [List.cons_append]
      by_cases has_x : p x = true
      · rw [List.find?_cons_of_pos has_x]
        apply Decidable.of_not_not
        intro bad
        exact none_before x List.mem_cons_self ⟨has_x, bad⟩
      · rw [List.find?_cons_of_neg has_x]
        apply ih
        intro y mem
        exact none_before y (List.mem_cons_of_mem _ mem)

namespace BootInfo

variable {b : BootInfo}

/-- A range that is not empty is looked up by its first and its last address. -/
theorem rangeIsAvailable_eq (told : b.memoryMap.regions ≠ []) (ordered : start.toNat < stop.toNat) :
    ∃ first last : DoubleWord, first.toNat = start.toNat ∧ last.toNat + 1 = stop.toNat ∧
      b.rangeIsAvailable start stop =
        some ((b.memoryMap.availableContaining first).any (·.contains last)) := by
  have start_lt := start.isLt
  have stop_lt := stop.isLt
  have one : (1 : Word).toNat = 1 := rfl
  -- The range ends behind its first address, so that address is not the last one there is.
  have next_at : (saturatingAdd start 1).toNat = start.toNat + 1 := by
    have sum_at : (BitVec.ofNat 32 (start.toNat + 1)).toNat = start.toNat + 1 := by
      rw [BitVec.toNat_ofNat, Nat.mod_eq_of_lt (by omega)]
    have sum : add? start 1 = some (BitVec.ofNat 32 (start.toNat + 1)) := by
      rw [add?_eq_some_iff, sum_at, one]
    unfold saturatingAdd
    rw [sum]
    exact sum_at
  have nonempty : b.memoryMap.regions.isEmpty = false := List.isEmpty_eq_false_iff.2 told
  refine ⟨start.setWidth 64, BitVec.ofNat 64 (max stop.toNat (saturatingAdd start 1).toNat - 1),
    ?_, ?_, ?_⟩
  · rw [BitVec.toNat_setWidth, Nat.mod_eq_of_lt (by omega)]
  · rw [BitVec.toNat_ofNat, next_at, Nat.max_eq_left ordered, Nat.mod_eq_of_lt (by omega)]
    omega
  · unfold rangeIsAvailable
    rw [nonempty]
    rfl

/-- **When a range is free.** Where the boot loader told of memory, a range that is not empty is
answered yes just if some free region spans it and no free region before that one breaks off within
it. So a yes is right; and where free regions do not overlap, the answer is yes just if some free
region spans the range. -/
theorem rangeIsAvailable_exact (told : b.memoryMap.regions ≠ []) (ordered : start.toNat < stop.toNat) :
    ∃ answer, b.rangeIsAvailable start stop = some answer ∧
      (answer = true ↔ ∃ before r after, b.memoryMap.regions = before ++ r :: after ∧
        r.Spans start stop ∧ ∀ q ∈ before, ¬ q.BreaksOff start stop) ∧
      (answer = true → ∃ r ∈ b.memoryMap.regions, r.Spans start stop) ∧
      (b.memoryMap.available.Pairwise Region.Apart →
        (answer = true ↔ ∃ r ∈ b.memoryMap.regions, r.Spans start stop)) := by
  obtain ⟨first, last, first_at, last_at, asked⟩ := b.rangeIsAvailable_eq told ordered
  have exact : (b.memoryMap.availableContaining first).any (·.contains last) = true ↔
      ∃ before r after, b.memoryMap.regions = before ++ r :: after ∧
        r.Spans start stop ∧ ∀ q ∈ before, ¬ q.BreaksOff start stop := by
    unfold MemoryMap.availableContaining
    rw [any_find?_iff]
    simp only [Region.spans_iff first_at last_at ordered, Region.breaksOff_iff first_at last_at ordered]
  have right : (b.memoryMap.availableContaining first).any (·.contains last) = true →
      ∃ r ∈ b.memoryMap.regions, r.Spans start stop := by
    intro yes
    obtain ⟨before, r, after, split, spans, -⟩ := exact.1 yes
    refine ⟨r, ?_, spans⟩
    rw [split]
    exact List.mem_append_right _ List.mem_cons_self
  refine ⟨_, asked, exact, right, ?_⟩
  intro apart
  refine ⟨right, ?_⟩
  rintro ⟨r, mem, spans⟩
  obtain ⟨before, after, split⟩ := List.append_of_mem mem
  apply exact.2
  refine ⟨before, r, after, split, spans, ?_⟩
  intro q q_mem breaks
  unfold MemoryMap.available at apart
  rw [List.pairwise_filter, split, List.pairwise_append] at apart
  obtain ⟨-, -, across⟩ := apart
  have free {s : Region} (kind : s.kind = .available) : s.isAvailable = true := decide_eq_true kind
  exact breaks.not_apart spans ordered
    (across q q_mem r List.mem_cons_self (free breaks.1) (free spans.1))

/-! ## Regions that overlap -/

/-- A free region, and after it a larger one that starts at the same address. -/
def nestedRecords : List MapRecord :=
  [⟨0, 0x2000, 1, [], by decide⟩, ⟨0, 0x10000, 1, [], by decide⟩]

/-- What a boot loader passed on that announced nothing but the map of those records. -/
def nested : BootInfo where
  information := .ofWords fun k => if k = 0 then 0x40 else 0
  memoryMap := ⟨.ofList (MapRecord.concat nestedRecords)⟩
  nameBytes := none

theorem regions_nested :
    nested.memoryMap.regions = [⟨0, 0x2000, .available⟩, ⟨0, 0x10000, .available⟩] :=
  MapRecord.regions_concat nestedRecords

theorem nested_within_first : nested.rangeIsAvailable 0x1000 0x1800 = some true := by
  have told : nested.memoryMap.regions ≠ [] := by
    rw [regions_nested]
    exact List.cons_ne_nil _ _
  have ordered : (0x1000 : Word).toNat < (0x1800 : Word).toNat := by decide
  obtain ⟨answer, asked, exact, -, -⟩ := rangeIsAvailable_exact told ordered
  have yes : answer = true := by
    apply exact.2
    refine ⟨[], _, _, regions_nested, ?_, ?_⟩
    · exact ⟨rfl, by decide, by decide⟩
    · intro q mem
      cases mem
  rw [asked, yes]

/-- The first region breaks off within the range, so that the second one is not asked. -/
theorem nested_beyond_first :
    BootInfo.validate loaderMagic nested.information nested.memoryMap none = .ok nested ∧
      (0x1000 : Word).toNat < (0x5000 : Word).toNat ∧
      (∃ r ∈ nested.memoryMap.regions, r.Spans 0x1000 0x5000) ∧
      nested.rangeIsAvailable 0x1000 0x5000 = some false := by
  refine ⟨rfl, by decide, ?spanned, ?refused⟩
  case spanned =>
    rw [regions_nested]
    refine ⟨⟨0, 0x10000, .available⟩, ?_, rfl, by decide, by decide⟩
    exact List.mem_cons_of_mem _ List.mem_cons_self
  case refused =>
    unfold rangeIsAvailable MemoryMap.availableContaining
    rw [regions_nested]
    decide

end BootInfo

end ProtectedBoot.Multiboot
