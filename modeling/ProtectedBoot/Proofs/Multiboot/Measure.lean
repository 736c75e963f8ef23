import Mathlib.Data.Set.Card
import Mathlib.Order.CompletePartialOrder
import Mathlib.Order.Interval.Finset.Nat
import Mathlib.Order.Interval.Set.Disjoint
import ProtectedBoot.Proofs.Multiboot.Total

/-!
# The number of free bytes is the number of free addresses

Seen from an address, memory is free where a search finds a free region that the address lies in; seen
from the map, it is as large as its free regions are long, added up. The two agree where no address
lies in two free regions and none of these goes beyond the address space: the addresses of a region are
as many as it is long, what regions without a common address cover is as much as they have together
(`ncard_covered`), and all of that lies below the last address, so that the sum cannot overflow.

Regions may touch, and a region without bytes may lie anywhere, also inside of another one.
-/

namespace ProtectedBoot.Multiboot

variable {r : Region} {l : List Region}

/-! ## What regions cover -/

namespace Region

/-- The addresses in a region, over the naturals. -/
def addresses (r : Region) : Set Nat := Set.Ico r.base.toNat r.stop

theorem ncard_addresses (r : Region) : r.addresses.ncard = r.length.toNat := by
  rw [addresses, ← Finset.coe_Ico, Set.ncard_coe_finset, Nat.card_Ico, stop, Nat.add_sub_cancel_left]

theorem finite_addresses (r : Region) : r.addresses.Finite := Set.finite_Ico _ _

/-- Cutting a region off at the last address changes nothing if it ends there. -/
theorem contains_iff_mem {a : DoubleWord} (short : r.stop < 2 ^ 64) :
    r.contains a = true ↔ a.toNat ∈ r.addresses := by
  have limit := r.toNat_limit
  have whole : r.limit.toNat = r.stop := by omega
  rw [contains, decide_eq_true_eq, whole]
  rfl

end Region

/-- The addresses in any of the regions. -/
def covered (l : List Region) : Set Nat := {x | ∃ r ∈ l, x ∈ r.addresses}

theorem covered_cons (r : Region) (l : List Region) : covered (r :: l) = r.addresses ∪ covered l := by
  ext x
  simp only [covered, List.exists_mem_cons_iff, Set.mem_ofPred_eq, Set.mem_union]

theorem finite_covered (l : List Region) : (covered l).Finite := by
  induction l with
  | nil => simp [covered]
  | cons r rest ih =>
    rw [covered_cons]
    exact r.finite_addresses.union ih

/-- **Regions without a common address** cover as many addresses as they are long together. -/
theorem ncard_covered (disjoint : l.Pairwise fun q r => Disjoint q.addresses r.addresses) :
    (covered l).ncard = ((l.map Region.length).map BitVec.toNat).sum := by
  induction l with
  | nil => simp [covered]
  | cons r rest ih =>
    obtain ⟨apart, disjoint⟩ := List.pairwise_cons.1 disjoint
    have from_rest : Disjoint r.addresses (covered rest) := by
      rw [Set.disjoint_left]
      rintro x inside ⟨q, mem, other⟩
      exact Set.disjoint_left.1 (apart q mem) inside other
    rw [covered_cons, Set.ncard_union_eq from_rest r.finite_addresses (finite_covered rest),
      r.ncard_addresses, ih disjoint, List.map_cons, List.map_cons, List.sum_cons]

/-- Regions that end within the address space leave out its last address, so they cover fewer than
there are. -/
theorem ncard_covered_lt (short : ∀ r ∈ l, r.stop < 2 ^ 64) : (covered l).ncard < 2 ^ 64 := by
  have below : covered l ⊆ (Finset.range (2 ^ 64 - 1) : Set Nat) := by
    rintro x ⟨r, mem, -, before⟩
    have := short r mem
    rw [Finset.mem_coe, Finset.mem_range]
    omega
  have bound := Set.ncard_le_ncard below (Finset.finite_toSet _)
  rw [Set.ncard_coe_finset, Finset.card_range] at bound
  omega

/-! ## What a search finds -/

namespace MemoryMap

variable {m : MemoryMap} {a : DoubleWord}

/-- A search finds the first of the free regions with the address. -/
theorem availableContaining_eq_head? (m : MemoryMap) (a : DoubleWord) :
    m.availableContaining a = (m.available.filter (·.contains a)).head? := by
  rw [availableContaining, available, List.filter_filter, List.head?_filter]
  congr 1
  funext r
  exact Bool.and_comm _ _

theorem availableContaining_isSome_iff :
    (m.availableContaining a).isSome ↔ ∃ r ∈ m.available, r.contains a = true := by
  rw [availableContaining_eq_head?, List.head?_filter, List.find?_isSome]

/-- The addresses at which memory is free are those that the free regions cover. -/
theorem image_free (short : ∀ r ∈ m.available, r.stop < 2 ^ 64) :
    BitVec.toNat '' {a : DoubleWord | (m.availableContaining a).isSome} = covered m.available := by
  ext x
  constructor
  · rintro ⟨a, found, rfl⟩
    obtain ⟨r, mem, inside⟩ := availableContaining_isSome_iff.1 found
    exact ⟨r, mem, (Region.contains_iff_mem (short r mem)).1 inside⟩
  · rintro ⟨r, mem, inside⟩
    have narrow : (BitVec.ofNat 64 x).toNat = x := by
      have before : x < r.stop := inside.2
      have := short r mem
      rw [BitVec.toNat_ofNat, Nat.mod_eq_of_lt (by omega)]
    refine ⟨BitVec.ofNat 64 x, ?_, narrow⟩
    refine availableContaining_isSome_iff.2 ⟨r, mem, ?_⟩
    rw [Region.contains_iff_mem (short r mem), narrow]
    exact inside

/-- Where no two free regions share an address, a search has no choice. -/
theorem filter_contains_eq (disjoint : m.available.Pairwise fun q r => Disjoint q.addresses r.addresses)
    (short : ∀ r ∈ m.available, r.stop < 2 ^ 64) (found : m.availableContaining a = some r) :
    m.available.filter (·.contains a) = [r] := by
  rw [availableContaining_eq_head?] at found
  obtain ⟨rest, all⟩ := List.head?_eq_some_iff.1 found
  have has (q : Region) (mem : q ∈ r :: rest) : a.toNat ∈ q.addresses := by
    rw [← all] at mem
    obtain ⟨mem, inside⟩ := List.mem_filter.1 mem
    exact (Region.contains_iff_mem (short q mem)).1 inside
  have apart := disjoint.filter (·.contains a)
  rw [all] at apart ⊢
  cases rest with
  | nil => rfl
  | cons q rest =>
    have shared : Disjoint r.addresses q.addresses :=
      (List.pairwise_cons.1 apart).1 q List.mem_cons_self
    exact absurd (has q (by simp)) (Set.disjoint_left.1 shared (has r (by simp)))

/-- **The free bytes are the free addresses, counted.** Where no address lies in two free regions and
every free region ends within the address space, the sum of the free bytes does not overflow and is the
number of addresses at which memory is free; and the region that is found for such an address is the
only free one that it lies in. -/
theorem availableBytes_eq_ncard
    (disjoint : m.available.Pairwise fun q r => Disjoint q.addresses r.addresses)
    (short : ∀ r ∈ m.available, r.stop < 2 ^ 64) :
    (∃ total, m.availableBytes = .ok total ∧
      total.toNat = {a : DoubleWord | (m.availableContaining a).isSome}.ncard) ∧
    ∀ a r, m.availableContaining a = some r → m.available.filter (·.contains a) = [r] := by
  have counted : m.availableTotal = (covered m.available).ncard := by
    rw [availableTotal_eq, ncard_covered disjoint]
    exact Nat.zero_add _
  obtain ⟨total, added, total_at⟩ := exists_availableBytes (counted ▸ ncard_covered_lt short)
  refine ⟨⟨total, added, ?_⟩, fun a r => filter_contains_eq disjoint short⟩
  have injective : Function.Injective (BitVec.toNat : DoubleWord → Nat) :=
    fun _ _ => BitVec.eq_of_toNat_eq
  rw [total_at, counted, ← image_free short, Set.ncard_image_of_injective _ injective]

/-! ## Regions that touch -/

/-- Two free regions that touch, a free region without bytes inside of the first, and a region that is
not free across all of them. -/
def touchingRecords : List MapRecord :=
  [⟨0, 0x2000, 1, [], BootInfo.nothing_extra⟩, ⟨0x1000, 0, 1, [], BootInfo.nothing_extra⟩,
    ⟨0, 0x10000, 2, [], BootInfo.nothing_extra⟩, ⟨0x2000, 0x1000, 1, [], BootInfo.nothing_extra⟩]

/-- The map of those records. -/
def touching : MemoryMap := ⟨.ofList (MapRecord.concat touchingRecords)⟩

theorem available_touching : touching.available =
    [⟨0, 0x2000, .available⟩, ⟨0x1000, 0, .available⟩, ⟨0x2000, 0x1000, .available⟩] := by
  rw [available, touching, MapRecord.regions_concat touchingRecords]
  decide

theorem touching_counted :
    (touching.available.Pairwise fun q r => Disjoint q.addresses r.addresses) ∧
      (∀ r ∈ touching.available, r.stop < 2 ^ 64) ∧
      {a : DoubleWord | (touching.availableContaining a).isSome}.ncard = 0x3000 := by
  have disjoint : touching.available.Pairwise fun q r => Disjoint q.addresses r.addresses := by
    rw [available_touching]
    simp [Region.addresses, Region.stop]
  have short : ∀ r ∈ touching.available, r.stop < 2 ^ 64 := by
    rw [available_touching]
    decide
  obtain ⟨⟨total, added, counted⟩, -⟩ := availableBytes_eq_ncard disjoint short
  have three : touching.availableBytes = .ok 0x3000 := by
    rw [availableBytes, available_touching]
    decide
  rw [three] at added
  cases added
  exact ⟨disjoint, short, counted.symm⟩

end MemoryMap

end ProtectedBoot.Multiboot
