import ProtectedBoot.Multiboot.MapRecord
import ProtectedBoot.Proofs.Bytes

/-!
# A memory map tells what was written into it

What a boot loader wrote is read record by record. Where the first 24 bytes of a record lie in the
map, reading yields its region and goes on right behind the record, however much it says beyond the
region (`next_of_holds`); where they do not, reading ends (`MemoryMap.regionsFrom_of_size_lt`). So a
map that is cut off anywhere tells of the records that begin to say something before the cut
(`regionsFrom_placed`), and the whole map tells of all of them (`regions_eq_records`).
-/

namespace ProtectedBoot.Multiboot

open Bytes (Holds ofList)

variable {m : MemoryMap} {b : Bytes} {offset behind : Nat}

/-! ## One record -/

namespace MemoryMap

theorem regionsFrom_of_next {r : Region} (found : m.next offset = (some r, behind)) :
    m.regionsFrom offset = r :: m.regionsFrom behind := by
  rw [regionsFrom]
  split
  · rename_i stopped
    rw [found] at stopped
    cases stopped
  · rename_i found'
    rw [found] at found'
    cases found'
    rfl

/-- Reading ends where there are no 24 bytes left. -/
theorem regionsFrom_of_size_lt (short : m.bytes.size < offset + 24) : m.regionsFrom offset = [] := by
  rw [regionsFrom]
  split
  · rfl
  · rename_i r behind found
    have := next_progress found
    omega

end MemoryMap

namespace MapRecord

/-- The bytes of a record that every reader understands. -/
def header (r : MapRecord) : List Byte :=
  littleEndian 4 (BitVec.ofNat 32 r.size) ++ littleEndian 8 r.base ++ littleEndian 8 r.length ++
    littleEndian 4 r.code

theorem toBytes_eq_header_append (r : MapRecord) : r.toBytes = r.header ++ r.extra := rfl

theorem length_header (r : MapRecord) : r.header.length = 24 := by
  simp only [header, List.length_append, littleEndian_length]

/-- **A record whose header lies in the map is read.** -/
theorem next_of_holds {r : MapRecord} (h : m.bytes.Holds offset r.header) :
    m.next offset = (some r.region, offset + r.toBytes.length) := by
  simp only [header, Bytes.holds_append_iff, List.length_append, littleEndian_length] at h
  obtain ⟨⟨⟨size, base⟩, length⟩, code⟩ := h
  have size_at : (BitVec.ofNat 32 r.size).toNat = r.size := by
    have narrow := r.extra_lt
    rw [BitVec.toNat_ofNat, Nat.mod_eq_of_lt (by rw [MapRecord.size]; omega)]
  have enough : ¬ r.size < recordPayload := by
    rw [MapRecord.size, recordPayload]
    omega
  have region : m.region? offset = some r.region := by
    simp only [MemoryMap.region?, base.doubleWord?, length.doubleWord?, code.word?]
    rfl
  simp only [MemoryMap.next, size.word?, size_at, if_neg enough, region, length_toBytes,
    Nat.add_assoc]

/-! ## Records in a row -/

theorem concat_cons (r : MapRecord) (rest : List MapRecord) :
    concat (r :: rest) = r.header ++ (r.extra ++ concat rest) := by
  rw [concat, List.flatMap_cons, toBytes_eq_header_append, List.append_assoc]
  rfl

/-- No record lies before the first. -/
theorem le_of_mem_placed {records : List MapRecord} {p : Nat × MapRecord}
    (mem : p ∈ placed offset records) : offset ≤ p.1 := by
  induction records generalizing offset with
  | nil => cases mem
  | cons r rest ih =>
    rcases List.mem_cons.1 mem with rfl | later
    · exact Nat.le_refl _
    · exact Nat.le_trans (Nat.le_add_right _ _) (ih later)

/-- The header of every record lies before the end of the map. -/
theorem stop_of_mem_placed {records : List MapRecord} {p : Nat × MapRecord}
    (mem : p ∈ placed offset records) : p.1 + 24 ≤ offset + (concat records).length := by
  induction records generalizing offset with
  | nil => cases mem
  | cons r rest ih =>
    have header := r.length_header
    rw [concat_cons, List.length_append, List.length_append]
    rcases List.mem_cons.1 mem with rfl | later
    · show offset + 24 ≤ _
      omega
    · have stop := ih later
      rw [toBytes_eq_header_append, List.length_append] at stop
      omega

theorem map_snd_placed (offset : Nat) (records : List MapRecord) :
    (placed offset records).map Prod.snd = records := by
  induction records generalizing offset with
  | nil => rfl
  | cons r rest ih => rw [placed, List.map_cons, ih]

/-- **Reading what was written, up to a cut.** -/
theorem regionsFrom_placed {records : List MapRecord} (written : b.Holds offset (concat records))
    (last : b.size = offset + (concat records).length) (k : Nat) :
    (⟨b.take k⟩ : MemoryMap).regionsFrom offset =
      ((placed offset records).filter fun p => p.1 + 24 ≤ k).map fun p => p.2.region := by
  have cut : (b.take k).size = min b.size k := rfl
  -- Record by record, each at the offset that the one before it leads to.
  induction records generalizing offset with
  | nil =>
    apply MemoryMap.regionsFrom_of_size_lt
    show (b.take k).size < offset + 24
    rw [concat, List.flatMap_nil, List.length_nil] at last
    omega
  | cons r rest ih =>
    rw [placed]
    by_cases inside : offset + 24 ≤ k
    · have pieces := written
      rw [concat_cons, Bytes.holds_append_iff] at pieces
      have header : (b.take k).Holds offset r.header := pieces.1.take (by rwa [r.length_header])
      have next := next_of_holds (m := ⟨b.take k⟩) header
      rw [MemoryMap.regionsFrom_of_next next, List.filter_cons_of_pos (by simpa using inside),
        List.map_cons]
      congr 1
      have rows : concat (r :: rest) = r.toBytes ++ concat rest := rfl
      rw [rows, Bytes.holds_append_iff] at written
      rw [rows, List.length_append] at last
      exact ih written.2 (by omega)
    · -- The cut is before the end of this header, and so before the end of every later one.
      have none_left : ((offset, r) :: placed (offset + r.toBytes.length) rest).filter
          (fun p => p.1 + 24 ≤ k) = [] := by
        rw [List.filter_eq_nil_iff]
        intro p mem
        have later : offset ≤ p.1 := le_of_mem_placed (show p ∈ placed offset (r :: rest) from mem)
        simp only [decide_eq_true_eq]
        omega
      rw [none_left, List.map_nil]
      apply MemoryMap.regionsFrom_of_size_lt
      show (b.take k).size < offset + 24
      omega

/-! ## A map -/

theorem regions_take (records : List MapRecord) (k : Nat) :
    (⟨ofList ((concat records).take k)⟩ : MemoryMap).regions = regionsWithin k records := by
  rw [Bytes.ofList_take]
  exact regionsFrom_placed (Bytes.holds_ofList _) (by rw [Bytes.size_ofList, Nat.zero_add]) k

/-- A map that is not cut off loses no record. -/
theorem regions_concat (records : List MapRecord) :
    (⟨ofList (concat records)⟩ : MemoryMap).regions = records.map region := by
  have read_all := regions_take records (concat records).length
  rw [List.take_length] at read_all
  have none_lost : ((placed 0 records).filter fun p => p.1 + 24 ≤ (concat records).length) =
      placed 0 records := by
    rw [List.filter_eq_self]
    intro p mem
    have stop := stop_of_mem_placed mem
    rw [Nat.zero_add] at stop
    exact decide_eq_true stop
  rw [read_all, regionsWithin, none_lost]
  conv_rhs => rw [← map_snd_placed 0 records, List.map_map]
  rfl

/-- **A memory map tells what was written into it**, wherever it is cut off: the regions of the records
whose first 24 bytes lie before the cut, in order, each with the base, the length and the code that were
written. The whole map tells of every record. -/
theorem regions_eq_records (records : List MapRecord) (k : Nat) :
    (⟨ofList ((concat records).take k)⟩ : MemoryMap).regions = regionsWithin k records ∧
    (⟨ofList ((concat records).take k)⟩ : MemoryMap).regions.map
        (fun r => (r.base, r.length, r.kind.code)) =
      ((placed 0 records).filter fun p => p.1 + 24 ≤ k).map
        (fun p => (p.2.base, p.2.length, p.2.code)) ∧
    (⟨ofList (concat records)⟩ : MemoryMap).regions = records.map region := by
  refine ⟨regions_take records k, ?codes, regions_concat records⟩
  case codes =>
    rw [regions_take records k, regionsWithin, List.map_map]
    apply List.map_congr_left
    intro p _
    show (p.2.base, p.2.length, (MemoryKind.ofCode p.2.code).code) = _
    rw [MemoryKind.code_ofCode]

end MapRecord

end ProtectedBoot.Multiboot
