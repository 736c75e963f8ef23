import Mathlib.Data.List.Forall2
import ProtectedBoot.Proofs.Align
import ProtectedBoot.Proofs.Layout.Validation

/-!
# Planning wastes nothing and gives up on nothing

A plan puts each section at the first suitable address behind its predecessor. No placement of the same
sections that meets the contract has any of them earlier (`exists_place`): by induction along the
image, the cursor of the planner is never ahead of the section that the other placement has there, and
rounding it up does not carry it past an address that is suitable.

So wherever there is a placement that meets the contract there is a plan, for none of the checks that
come after the placement minds that sections lie earlier (`Contract.of_le`). The plan is then the
smallest image of all (`plan_optimal`).
-/

namespace ProtectedBoot.Layout

/-! ## Placing -/

namespace LayoutPlan

/-- What is asked of a section before it has a place. -/
def request (s : PlacedSection) : SectionKind × Word := (s.kind, s.size)

/-- Each section starts at the first suitable address behind the one before it, or behind `first`, and
ends at an address. -/
inductive PackedFrom : Nat → List PlacedSection → Prop where
  | nil {first : Nat} : PackedFrom first []
  | cons {first : Nat} {s : PlacedSection} {rest : List PlacedSection}
      (least : IsLeast {a | s.kind.alignment.toNat ∣ a ∧ first ≤ a} s.start.toNat)
      (fits : s.stop < 0x100000000) (behind : PackedFrom s.stop rest) :
      PackedFrom first (s :: rest)

variable {l : List (SectionKind × Word)} {placed others : List PlacedSection} {cursor : Word}

/-- A section is placed, and then those behind it. -/
theorem place_cons_eq_ok_iff {k : SectionKind} {size : Word} :
    place cursor ((k, size) :: l) = .ok placed ↔
      ∃ start next rest, alignUp? cursor k.alignment = some start ∧ add? start size = some next ∧
        place next l = .ok rest ∧ placed = ⟨k, ⟨start⟩, size⟩ :: rest := by
  rw [place]
  rcases alignUp? cursor k.alignment with _ | start
  · simp
  · rcases sum : add? start size with _ | next
    · simp [sum]
    · rcases later : place next l with e | rest
      · simp [sum, later, Except.map]
      · simp [sum, later, Except.map, eq_comm]

/-- **What the planner places** has the kinds and the sizes asked for, and is packed. -/
theorem packedFrom_of_place (h : place cursor l = .ok placed) :
    placed.map request = l ∧ PackedFrom cursor.toNat placed := by
  induction l generalizing cursor placed with
  | nil =>
    cases h
    exact ⟨rfl, .nil⟩
  | cons x rest ih =>
    obtain ⟨k, size⟩ := x
    obtain ⟨start, next, tail, rounded, sum, later, rfl⟩ := place_cons_eq_ok_iff.1 h
    obtain ⟨same, packed⟩ := ih later
    have stop_at : (⟨k, ⟨start⟩, size⟩ : PlacedSection).stop = next.toNat := add?_eq_some_iff.1 sum
    refine ⟨congrArg ((k, size) :: ·) same, .cons ?_ ?_ ?_⟩
    · exact isLeast_of_alignUp? k.alignment_isPowerOfTwo rounded
    · exact stop_at ▸ next.isLt
    · exact stop_at ▸ packed

/-- **No placement is ahead of the planner.** Sections that are aligned, lie one behind the other from
the cursor on and end at addresses can be planned, and start no earlier than planned. -/
theorem exists_place (aligned : ∀ s ∈ others, s.kind.alignment.toNat ∣ s.start.toNat)
    (behind : ∀ s ∈ others, cursor.toNat ≤ s.start.toNat)
    (apart : others.Pairwise fun s r => s.stop ≤ r.start.toNat)
    (fits : ∀ s ∈ others, s.stop < 0x100000000) :
    ∃ placed, place cursor (others.map request) = .ok placed ∧
      List.Forall₂ (fun s o => s.start.toNat ≤ o.start.toNat) placed others := by
  induction others generalizing cursor with
  | nil => exact ⟨[], rfl, .nil⟩
  | cons o rest ih =>
    rw [List.forall_mem_cons] at aligned behind fits
    rw [List.pairwise_cons] at apart
    have stop_eq : o.stop = o.start.toNat + o.size.toNat := rfl
    obtain ⟨start, rounded⟩ := exists_alignUp?_of_dvd o.kind.alignment_isPowerOfTwo aligned.1
      behind.1 o.start.toNat_lt
    -- The address that the other placement has is suitable, and the planner's is the first such one.
    have earlier : start.toNat ≤ o.start.toNat :=
      (isLeast_of_alignUp? o.kind.alignment_isPowerOfTwo rounded).2 ⟨aligned.1, behind.1⟩
    obtain ⟨next, sum, next_at⟩ : ∃ next, add? start o.size = some next ∧
        start.toNat + o.size.toNat = next.toNat := by
      have next_at : (BitVec.ofNat 32 (start.toNat + o.size.toNat)).toNat =
          start.toNat + o.size.toNat := by
        rw [BitVec.toNat_ofNat, Nat.mod_eq_of_lt (by omega)]
      exact ⟨_, add?_eq_some_iff.2 next_at.symm, next_at.symm⟩
    have behind_next : ∀ s ∈ rest, next.toNat ≤ s.start.toNat := by
      intro s mem
      have := apart.1 s mem
      omega
    obtain ⟨placed, later, no_later⟩ := ih aligned.2 behind_next apart.2 fits.2
    exact ⟨_, place_cons_eq_ok_iff.2 ⟨start, next, placed, rounded, sum, later, rfl⟩,
      .cons earlier no_later⟩

/-! ## Packed sections -/

namespace PackedFrom

variable {first : Nat}

theorem forall_mem (h : PackedFrom first placed) : ∀ s ∈ placed,
    s.kind.alignment.toNat ∣ s.start.toNat ∧ first ≤ s.start.toNat ∧ s.stop < 0x100000000 := by
  induction h with
  | nil => simp
  | cons least fits _ ih =>
    rw [List.forall_mem_cons]
    obtain ⟨whole, le⟩ := least.1
    refine ⟨⟨whole, le, fits⟩, fun s mem => ?_⟩
    obtain ⟨whole_s, le_s, fits_s⟩ := ih s mem
    exact ⟨whole_s, Nat.le_trans (Nat.le_trans le (Nat.le_add_right _ _)) le_s, fits_s⟩

theorem pairwise (h : PackedFrom first placed) :
    placed.Pairwise fun s r => s.stop ≤ r.start.toNat := by
  induction h with
  | nil => exact .nil
  | cons _ _ behind ih => exact .cons (fun r mem => (behind.forall_mem r mem).2.1) ih

/-- The first section starts behind `first`. -/
theorem head (h : PackedFrom first placed) (pos : 0 < placed.length) :
    IsLeast {a | placed[0].kind.alignment.toNat ∣ a ∧ first ≤ a} placed[0].start.toNat := by
  cases h with
  | nil => cases pos
  | cons least _ _ => exact least

/-- Each later section starts behind its predecessor. -/
theorem next (h : PackedFrom first placed) (i : Nat) (lt : i + 1 < placed.length) :
    IsLeast {a | placed[i + 1].kind.alignment.toNat ∣ a ∧ placed[i].stop ≤ a}
      placed[i + 1].start.toNat := by
  induction h generalizing i with
  | nil => cases lt
  | cons _ _ behind ih =>
    cases i with
    | zero => exact behind.head (Nat.lt_of_succ_lt_succ lt)
    | succ i => exact ih i (Nat.lt_of_succ_lt_succ lt)

end PackedFrom

/-! ## Plans -/

variable {p q : LayoutPlan} {config : LayoutConfig} {sizes : Vector Word 7}

theorem requests_eq (sizes : Vector Word 7) :
    requests sizes = SectionKind.all.toList.map fun k => (k, sizes.get k.index) := by
  rw [requests, ← Vector.toList_map]
  congr 1
  ext i hi : 1
  rw [Vector.getElem_map, Vector.getElem_zip, SectionKind.index_all hi]
  rfl

/-- The sections of a placement are what is asked for. -/
theorem map_request_eq_iff :
    p.sections.toList.map request = requests sizes ↔
      (∀ k, (p.sectionAt k).kind = k) ∧ p.HasSizes sizes := by
  rw [requests_eq, toList_sections, List.map_map, List.map_inj_left]
  constructor
  · intro same
    have each (k : SectionKind) := Prod.mk.inj (same k k.mem_all)
    exact ⟨fun k => (each k).1, fun k => (each k).2⟩
  · rintro ⟨kinds, same_sizes⟩ k -
    exact Prod.ext (kinds k) (same_sizes k)

/-- A plan is a placement that was accepted. -/
theorem plan_eq_ok_iff : plan config sizes = .ok p ↔
    place config.loadBase.bits (requests sizes) = .ok p.sections.toList ∧ p.config = config ∧
      p.validate = .ok () := by
  unfold plan
  split
  · rename_i e refused
    simp [refused]
  · rename_i placed found
    constructor
    · intro accepted
      dsimp only at accepted
      generalize same : LayoutPlan.mk config _ = p' at accepted
      rcases valid : p'.validate with e | _
      · rw [valid] at accepted
        cases accepted
      · rw [valid] at accepted
        cases accepted
        cases same
        exact ⟨found, rfl, valid⟩
    · rintro ⟨planned, rfl, valid⟩
      cases found.symm.trans planned
      show p.validate.map (fun _ => p) = .ok p
      rw [valid]
      rfl

theorem getElem_toList_sections (k : SectionKind) (lt : k.index.val < p.sections.toList.length) :
    p.sections.toList[k.index.val] = p.sectionAt k :=
  Vector.getElem_toList _

theorem packed_of_packedFrom (kinds : ∀ k, (p.sectionAt k).kind = k)
    (base_aligned : 4096 ∣ p.config.loadBase.toNat)
    (h : PackedFrom p.config.loadBase.toNat p.sections.toList) : p.Packed where
  header_start := by
    have pos : 0 < p.sections.toList.length := by simp
    have least := h.head pos
    have first : p.sections.toList[0] = p.sectionAt .header := getElem_toList_sections .header pos
    rw [first, kinds] at least
    exact Address.ext_toNat (Nat.le_antisymm (least.2 ⟨base_aligned, Nat.le_refl _⟩) least.1.2)
  next_start j k follows := by
    have lt_k : k.index.val < p.sections.toList.length := by simp
    have lt : j.index.val + 1 < p.sections.toList.length := follows ▸ lt_k
    have least := h.next j.index.val lt
    simp only [← follows] at least
    rw [getElem_toList_sections j, getElem_toList_sections k, kinds] at least
    exact least

/-! ## The smallest image -/

/-- Where the image ends is no later if its last section ends no later. -/
theorem imageEnd_mono (le : (p.sectionAt .bss).stop ≤ (q.sectionAt .bss).stop) :
    p.imageEnd ≤ q.imageEnd := by
  simp only [imageEnd]
  split <;> split <;> omega

/-- **Nothing in the contract minds that sections lie earlier**, as long as they are placed well. -/
theorem Contract.of_le (contract : q.Contract) (same_config : p.config = q.config)
    (kinds : ∀ k, (p.sectionAt k).kind = k) (same_sizes : ∀ k, (p.sectionAt k).size = (q.sectionAt k).size)
    (aligned : ∀ k, k.alignment.toNat ∣ (p.sectionAt k).start.toNat)
    (base_le : ∀ k, p.config.loadBase.toNat ≤ (p.sectionAt k).start.toNat)
    (disjoint : ∀ j k, j.index < k.index → (p.sectionAt j).stop ≤ (p.sectionAt k).start.toNat)
    (earlier : ∀ k, (p.sectionAt k).start.toNat ≤ (q.sectionAt k).start.toNat) : p.Contract := by
  have stops (k : SectionKind) : (p.sectionAt k).stop ≤ (q.sectionAt k).stop := by
    unfold PlacedSection.stop
    rw [same_sizes]
    exact Nat.add_le_add_right (earlier k) _
  exact {
    above_legacy := same_config ▸ contract.above_legacy
    base_aligned := same_config ▸ contract.base_aligned
    in_order := kinds
    header_fits := same_sizes .header ▸ contract.header_fits
    table_pos := same_sizes .descriptorTable ▸ contract.table_pos
    table_le := same_sizes .descriptorTable ▸ contract.table_le
    table_whole := same_sizes .descriptorTable ▸ contract.table_whole
    aligned, base_le, disjoint
    mapped := fun k => by
      rw [same_config]
      exact Nat.le_trans (Nat.add_le_add_right (stops k) _) (contract.mapped k)
    header_reached := by
      rw [same_config]
      exact Nat.le_trans (Nat.add_le_add_right (earlier .header) _) contract.header_reached
    identity := by
      rw [same_config]
      exact Nat.le_trans (imageEnd_mono (stops .bss)) contract.identity }

/-- A plan is packed, and asks for nothing but what it was asked for. -/
theorem packed_of_plan (planned : plan config sizes = .ok p) :
    p.config = config ∧ (∀ k, (p.sectionAt k).kind = k) ∧ p.HasSizes sizes ∧ p.Packed ∧
      p.validate = .ok () := by
  obtain ⟨placed, rfl, valid⟩ := plan_eq_ok_iff.1 planned
  obtain ⟨asked, packed⟩ := packedFrom_of_place placed
  obtain ⟨kinds, has_sizes⟩ := map_request_eq_iff.1 asked
  have contract := validate_eq_ok_iff.1 valid
  exact ⟨rfl, kinds, has_sizes, packed_of_packedFrom kinds contract.base_aligned packed, valid⟩

/-- Section by section is kind by kind. -/
theorem forall₂_sections_iff {R : PlacedSection → PlacedSection → Prop} :
    List.Forall₂ R p.sections.toList q.sections.toList ↔ ∀ k, R (p.sectionAt k) (q.sectionAt k) := by
  rw [toList_sections, toList_sections, List.forall₂_map_left_iff, List.forall₂_map_right_iff,
    List.forall₂_same]
  exact ⟨fun h k => h k k.mem_all, fun h k _ => h k⟩

/-- Sections that can be placed no later than those of a placement that meets the contract meet it as
well. -/
theorem contract_of_place (contract : q.Contract) (has_sizes : q.HasSizes sizes)
    (same_config : p.config = q.config)
    (found : place p.config.loadBase.bits (requests sizes) = .ok p.sections.toList)
    (earlier : ∀ k, (p.sectionAt k).start.toNat ≤ (q.sectionAt k).start.toNat) : p.Contract := by
  obtain ⟨asked, packed⟩ := packedFrom_of_place found
  obtain ⟨kinds, same_sizes⟩ := map_request_eq_iff.1 asked
  have each := forall_sections_iff.1 packed.forall_mem
  refine contract.of_le same_config kinds (fun k => (same_sizes k).trans (has_sizes k).symm) ?_
    (fun k => (each k).2.1) (pairwise_sections_iff.1 packed.pairwise) earlier
  intro k
  have whole := (each k).1
  rwa [kinds] at whole

/-- **Where a placement meets the contract there is a plan** for the same sections, none of which it
puts later. -/
theorem exists_plan_of_contract (contract : q.Contract) (has_sizes : q.HasSizes sizes) :
    ∃ p, plan q.config sizes = .ok p ∧ p.Contract ∧ p.config = q.config ∧ p.HasSizes sizes ∧
      ∀ k, (p.sectionAt k).start.toNat ≤ (q.sectionAt k).start.toNat := by
  have aligned (k : SectionKind) :
      (q.sectionAt k).kind.alignment.toNat ∣ (q.sectionAt k).start.toNat := by
    rw [contract.in_order]
    exact contract.aligned k
  have behind : ∀ s ∈ q.sections.toList, q.config.loadBase.bits.toNat ≤ s.start.toNat :=
    forall_sections_iff.2 contract.base_le
  have fits (k : SectionKind) : (q.sectionAt k).stop < 0x100000000 :=
    Nat.lt_succ_of_le (Nat.le_trans (Nat.le_add_right _ _) (contract.mapped k))
  obtain ⟨placed, found, no_later⟩ := exists_place (forall_sections_iff.2 aligned) behind
    (pairwise_sections_iff.2 contract.disjoint) (forall_sections_iff.2 fits)
  rw [map_request_eq_iff.2 ⟨contract.in_order, has_sizes⟩] at found
  -- As many sections are placed as the other placement has.
  obtain ⟨sections, rfl⟩ : ∃ sections : Vector PlacedSection 7, sections.toList = placed :=
    ⟨⟨placed.toArray, by simpa using no_later.length_eq⟩, rfl⟩
  let p : LayoutPlan := ⟨q.config, sections⟩
  have earlier : ∀ k, (p.sectionAt k).start.toNat ≤ (q.sectionAt k).start.toNat :=
    (forall₂_sections_iff (R := fun s o => s.start.toNat ≤ o.start.toNat)).1 no_later
  have meets : p.Contract := contract_of_place contract has_sizes rfl found earlier
  exact ⟨p, plan_eq_ok_iff.2 ⟨found, rfl, validate_eq_ok_iff.2 meets⟩, meets, rfl,
    (map_request_eq_iff.1 (packedFrom_of_place found).1).2, earlier⟩

/-- **The plan is the best placement there is.** A plan has the sections that were asked for, packed
from the load base on, and meets the contract. And wherever some placement of sections of these sizes
meets the contract there is a plan; it starts none of them later, and its image ends no later. -/
theorem plan_optimal (config : LayoutConfig) (sizes : Vector Word 7) :
    (∀ p, plan config sizes = .ok p →
      p.config = config ∧ (∀ k, (p.sectionAt k).kind = k) ∧ p.HasSizes sizes ∧ p.Packed ∧
        p.validate = .ok ()) ∧
    ∀ q : LayoutPlan, q.config = config → q.HasSizes sizes → q.validate = .ok () →
      ∃ p, plan config sizes = .ok p ∧
        (∀ k, (p.sectionAt k).start.toNat ≤ (q.sectionAt k).start.toNat) ∧
        p.markers.physEnd.toNat ≤ q.markers.physEnd.toNat := by
  refine ⟨fun p => packed_of_plan, ?_⟩
  rintro q rfl has_sizes valid
  have contract := validate_eq_ok_iff.1 valid
  obtain ⟨p, planned, meets, -, same_sizes, earlier⟩ := exists_plan_of_contract contract has_sizes
  refine ⟨p, planned, earlier, ?_⟩
  have last : (p.sectionAt .bss).stop ≤ (q.sectionAt .bss).stop := by
    unfold PlacedSection.stop
    rw [same_sizes, has_sizes]
    exact Nat.add_le_add_right (earlier .bss) _
  rw [meets.toNat_physEnd, contract.toNat_physEnd]
  exact imageEnd_mono last

/-- A placement that starts the descriptor table half a page late, and the code a page late for it. -/
def loosePlan : LayoutPlan where
  config := .platform
  sections := #v[⟨.header, ⟨0x100000⟩, 12⟩, ⟨.boot, ⟨0x101000⟩, 0x800⟩,
    ⟨.descriptorTable, ⟨0x102000⟩, 40⟩, ⟨.text, ⟨0x103000⟩, 0x1000⟩, ⟨.rodata, ⟨0x104000⟩, 0⟩,
    ⟨.data, ⟨0x104000⟩, 0x3000⟩, ⟨.bss, ⟨0x107000⟩, 0x10⟩]

theorem loosePlan_packed :
    loosePlan.validate = .ok () ∧
      ∃ p, plan .platform #v[12, 0x800, 40, 0x1000, 0, 0x3000, 0x10] = .ok p ∧ p.Packed ∧
        p.HasSizes #v[12, 0x800, 40, 0x1000, 0, 0x3000, 0x10] ∧
        (p.sectionAt .descriptorTable).start.toNat ≤ 0x102000 ∧
        p.markers.physEnd.toNat ≤ 0x108000 := by
  have accepted : loosePlan.validate = .ok () := by rfl
  have has_sizes : loosePlan.HasSizes #v[12, 0x800, 40, 0x1000, 0, 0x3000, 0x10] := by
    intro k
    cases k <;> rfl
  obtain ⟨sound, complete⟩ := plan_optimal .platform #v[12, 0x800, 40, 0x1000, 0, 0x3000, 0x10]
  obtain ⟨p, planned, earlier, ends⟩ := complete loosePlan rfl has_sizes accepted
  obtain ⟨-, -, same_sizes, packed, -⟩ := sound p planned
  exact ⟨accepted, p, planned, packed, same_sizes, earlier .descriptorTable, ends⟩

/-- The table shares a page with the entry code, and the image is a page smaller. -/
example : ((plan .platform #v[12, 0x800, 40, 0x1000, 0, 0x3000, 0x10]).map fun p =>
    ((p.sectionAt .descriptorTable).start, p.markers.physEnd)).toOption =
      some (⟨0x101800⟩, ⟨0x107000⟩) := by
  decide +kernel

end LayoutPlan

end ProtectedBoot.Layout
