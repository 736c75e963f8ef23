import Mathlib.Order.Bounds.Defs
import ProtectedBoot.Multiboot.Scan
import ProtectedBoot.Proofs.Multiboot.Header

/-!
# What the search finds

A valid header that starts at a multiple of four and ends in the window is a *candidate*. The search
yields the least candidate, and nothing just where there is none (`find_decided`). It makes no
difference that a boot loader works on pieces: every piece that it cuts lies in the image, and what
is read from the start of a piece is what is read at the offset of the cut (`scan_eq_find`).

A header is read from its own bytes, whatever follows them (`ofBytes?_toBytes`).
-/

namespace ProtectedBoot

/-! ## Pieces -/

namespace Bytes

variable {b piece : Bytes} {offset i : Nat}

theorem exists_from? (le : offset ≤ b.size) : ∃ piece, b.from? offset = some piece :=
  ⟨_, dif_pos le⟩

/-- **A word of a piece is a word of the string**, further on by the offset of the cut. -/
theorem word?_of_from? (cut : b.from? offset = some piece) : piece.word? i = b.word? (offset + i) := by
  unfold from? at cut
  split at cut
  · cases cut
    rename_i le
    unfold word? run?
    by_cases inside : i + 4 ≤ b.size - offset
    · rw [dif_pos inside, dif_pos (by omega)]
      simp only [Option.map_some, Nat.add_assoc]
    · rw [dif_neg inside, dif_neg (by omega)]
  · cases cut

end Bytes

namespace Multiboot.Header

variable {b piece window image : Bytes} {k : Nat} {offsets : List Nat}

/-- A header is read from the start of a piece as it is read at the cut. -/
theorem ofBytes?_of_from? (cut : window.from? k = some piece) : ofBytes? piece = read? window k := by
  simp only [ofBytes?, read?, Bytes.word?_of_from? cut, Nat.add_zero, Nat.zero_add]

/-- Pieces or not, the same offset is found, as long as none of those that are tried lies behind the
window. -/
theorem scanFrom_eq_find? (inside : ∀ k ∈ offsets, k ≤ window.size) :
    scanFrom window offsets = some (offsets.find? fun k => (read? window k).any isValid) := by
  induction offsets with
  | nil => rfl
  | cons k rest ih =>
    obtain ⟨piece, cut⟩ := Bytes.exists_from? (inside k List.mem_cons_self)
    have later := ih fun k mem => inside k (List.mem_cons_of_mem _ mem)
    rw [scanFrom, cut, Option.bind_eq_bind, Option.bind_some, ofBytes?_of_from? cut]
    rw [List.find?_cons]
    by_cases found : (read? window k).any isValid = true
    · rw [if_pos found, found]
      rfl
    · rw [if_neg found, Bool.eq_false_iff.2 found]
      exact later

/-- **Every cut lies in the image**, and the search in pieces finds what the search by offsets finds. -/
theorem scan_eq_find (image : Bytes) : scan image = some (find image) := by
  have least : min image.size Platform.searchWindow.toNat ≤ image.size := Nat.min_le_left _ _
  have window : image.take (min image.size Platform.searchWindow.toNat) =
      image.take Platform.searchWindow.toNat := by
    refine Bytes.ext ?_ fun i _ => rfl
    show min image.size (min image.size _) = min image.size _
    rw [← Nat.min_assoc, Nat.min_self]
  rw [scan, Bytes.first?, if_pos least, Option.bind_eq_bind, Option.bind_some, window, find]
  apply scanFrom_eq_find?
  intro k mem
  obtain ⟨i, below, rfl⟩ := List.mem_map.1 mem
  have := List.mem_range.1 below
  omega

/-! ## Candidates -/

/-- The offsets at which a boot loader may find a header. -/
def candidates (image : Bytes) : Set Nat :=
  {k | 4 ∣ k ∧ k + 12 ≤ min image.size 8192 ∧ ValidAt image k}

theorem mem_candidates : k ∈ candidates image ↔ 4 ∣ k ∧ k + 12 ≤ 8192 ∧ ValidAt image k := by
  constructor
  · rintro ⟨whole, early, valid⟩
    exact ⟨whole, (Nat.le_min.1 early).2, valid⟩
  · rintro ⟨whole, early, valid⟩
    exact ⟨whole, Nat.le_min.2 ⟨valid.inside, early⟩, valid⟩

theorem find_eq_some_iff_isLeast : find image = some k ↔ IsLeast (candidates image) k := by
  rw [find_eq_some_iff]
  constructor
  · rintro ⟨whole, early, valid, first⟩
    refine ⟨mem_candidates.2 ⟨whole, early, valid⟩, ?_⟩
    intro j candidate
    obtain ⟨whole, -, valid⟩ := mem_candidates.1 candidate
    exact Nat.le_of_not_lt fun before => first j before whole valid
  · rintro ⟨candidate, least⟩
    obtain ⟨whole, early, valid⟩ := mem_candidates.1 candidate
    refine ⟨whole, early, valid, ?_⟩
    -- What comes before a header that ends in the window ends in it as well.
    intro j before whole earlier
    exact absurd (least (mem_candidates.2 ⟨whole, by omega, earlier⟩)) (Nat.not_le.2 before)

theorem find_eq_none_iff_not_mem : find image = none ↔ ¬ ∃ k, k ∈ candidates image := by
  rw [find_eq_none_iff]
  constructor
  · rintro nothing ⟨k, candidate⟩
    obtain ⟨whole, early, valid⟩ := mem_candidates.1 candidate
    exact nothing k whole early valid
  · intro nothing k whole early valid
    exact nothing ⟨k, mem_candidates.2 ⟨whole, early, valid⟩⟩

/-! ## Headers as bytes -/

/-- **A header is read back from its bytes**, valid or not, and whatever follows them. -/
theorem ofBytes?_toBytes (h : Header) (rest : List Byte) :
    ofBytes? (.ofList (h.toBytes ++ rest)) = some h := by
  have written := (Bytes.holds_append_iff.1 (Bytes.holds_ofList (h.toBytes ++ rest))).1
  generalize Bytes.ofList (h.toBytes ++ rest) = b at written
  simp only [toBytes, Bytes.holds_append_iff, List.length_append, littleEndian_length] at written
  obtain ⟨⟨magic, flags⟩, checksum⟩ := written
  simp only [ofBytes?, read?, magic.word?, flags.word?, checksum.word?]
  rfl

/-- **The search of a boot loader, in full.** In every image it finds the least multiple of four at
which a header lies that ends in the window and in the image, that starts with the magic number and
whose words add up to zero; it finds nothing only where there is no such offset; and no cut that it
makes on the way leaves the image. What is emitted for a word of requests is such a header, with that
word in it, and every header is read back from its bytes. -/
theorem find_decided :
    (∀ image k, find image = some k ↔ IsLeast (candidates image) k) ∧
    (∀ image, find image = none ↔ ¬ ∃ k, k ∈ candidates image) ∧
    (∀ image, scan image = some (find image)) ∧
    (∀ flags, (emit flags).magic = headerMagic ∧ (emit flags).flags = flags ∧
      headerMagic + flags + (emit flags).checksum = 0) ∧
    (∀ h rest, ofBytes? (.ofList (h.toBytes ++ rest)) = some h) := by
  refine ⟨fun _ _ => find_eq_some_iff_isLeast, fun _ => find_eq_none_iff_not_mem, scan_eq_find,
    ?emitted, ofBytes?_toBytes⟩
  case emitted =>
    intro flags
    have valid := isValid_emit flags
    simp only [isValid, decide_eq_true_eq] at valid
    exact ⟨rfl, rfl, valid.2⟩

end Multiboot.Header

end ProtectedBoot
