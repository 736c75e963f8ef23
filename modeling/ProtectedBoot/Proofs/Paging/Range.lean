import ProtectedBoot.Proofs.Paging.Growth
import ProtectedBoot.Proofs.Paging.Invariant
import ProtectedBoot.Proofs.Paging.Position

/-!
# What a mapped range translates to

A request for a page that goes well makes the addresses of the page translate to those of its frame,
and leaves every other address as it was (`translate_of_mapPage`). A range is mapped page by page,
with the pages done so far in the invariant of the loop (`Ranged`), so the same holds of a range
(`mapRange_ranged`). Either way nothing that was mapped before changes.
-/

namespace ProtectedBoot.Paging

open Attempt (Triple)

/-! ## Distances -/

/-- The bits of an address that lies so far above another. -/
theorem bits_of_toNat_add {s r : Space} {a : Address s} {b : Address r} {d : Nat}
    (h : b.toNat = a.toNat + d) : b.bits = a.bits + BitVec.ofNat 32 d := by
  rw [← BitVec.toNat_inj, BitVec.toNat_add, BitVec.toNat_ofNat, Nat.add_mod_mod]
  exact h ▸ (Nat.mod_eq_of_lt b.bits.isLt).symm

section Locate

variable {z : PageSize} {va v : VirtAddr} {pa : PhysAddr}

/-- The start of a page and an offset within it have no bit in common. -/
theorem or_offset_of_aligned (hpa : pa.isAligned z = true) (v : VirtAddr) :
    pa.bits ||| v.offset z = pa.bits + v.offset z := by
  have low : pa.bits &&& (z.bytes - 1) = 0 := by
    rw [Address.isAligned, isAligned, beq_iff_eq] at hpa
    exact hpa
  rw [← BitVec.add_eq_or_of_and_eq_zero]
  rw [Address.offset, BitVec.and_comm v.bits, ← BitVec.and_assoc, low]
  exact BitVec.zero_and

/-- The distance of an address from the start of its page. -/
theorem offset_eq_sub (hva : va.isAligned z = true)
    (inside : v.toNat / z.bytes.toNat = va.toNat / z.bytes.toNat) :
    v.offset z = v.bits - va.bits := by
  have hva := Address.isAligned_iff_mod.1 hva
  have hv := Nat.div_add_mod v.toNat z.bytes.toNat
  have hw := Nat.div_add_mod va.toNat z.bytes.toNat
  rw [inside] at hv
  have le : va.bits ≤ v.bits := by
    rw [BitVec.le_def]
    show va.toNat ≤ v.toNat
    omega
  apply BitVec.eq_of_toNat_eq
  rw [Address.toNat_offset, BitVec.toNat_sub_of_le le]
  show _ = v.toNat - va.toNat
  omega

/-- The addresses of a page are those from its start on, as many as a page has bytes. -/
theorem samePage_iff {v : VirtAddr} (hva : va.isAligned z = true) :
    v.toNat / z.bytes.toNat = va.toNat / z.bytes.toNat ↔
      va.toNat ≤ v.toNat ∧ v.toNat < va.toNat + z.bytes.toNat := by
  have page_pos := z.bytes_pos
  have whole : va.toNat / z.bytes.toNat * z.bytes.toNat = va.toNat :=
    Nat.div_mul_cancel (Nat.dvd_of_mod_eq_zero (Address.isAligned_iff_mod.1 hva))
  rw [Nat.div_eq_iff page_pos, whole]
  omega

/-- An address of a page lies as far into its frame as into the page. -/
theorem locate_containing (hva : va.isAligned z = true) (hpa : pa.isAligned z = true)
    (inside : v.toNat / z.bytes.toNat = va.toNat / z.bytes.toNat) :
    (Page.containing pa : PhysPage z).locate v = ⟨pa.bits + (v.bits - va.bits)⟩ := by
  rw [Page.locate, Page.base_containing_of_aligned hpa, or_offset_of_aligned hpa,
    offset_eq_sub hva inside]

/-- An address at which a page starts is mapped to the start of a frame. -/
theorem locate_of_aligned (hva : va.isAligned z = true) (q : PhysPage z) : q.locate va = q.base := by
  have zero : va.offset z = 0 := by
    rw [← BitVec.toNat_inj, Address.toNat_offset]
    exact Address.isAligned_iff_mod.1 hva
  rw [Page.locate, zero]
  exact congrArg Address.mk BitVec.or_zero

/-- What maps the start of a page to the start of a frame maps the page to the frame. -/
theorem eq_containing_of_locate (hva : va.isAligned z = true) (hpa : pa.isAligned z = true)
    {q : PhysPage z} (same : q.locate va = pa) : q = .containing pa := by
  apply Page.ext_base
  rw [Page.base_containing_of_aligned hpa, ← same, locate_of_aligned hva]

end Locate

namespace AddressSpace

variable {n : Nat} {t u : AddressSpace n} {z : PageSize} {va : VirtAddr} {pa : PhysAddr} {f : Flags}

/-! ## One page -/

/-- A request for a page that goes well was for a page, and for a frame. -/
theorem aligned_of_mapPage (done : mapPage z va pa f t = (.ok (), u)) :
    va.isAligned z = true ∧ pa.isAligned z = true := by
  by_contra misaligned
  have refused := mapPage_of_misaligned misaligned f t
  rw [refused] at done
  cases done

/-- **What mapping a small page does to the translation.** -/
theorem translate_of_mapSmall (wf : t.WellFormed) (done : mapSmall va pa f t = (.ok (), u))
    (v : VirtAddr) :
    u.translate v =
      if v.toNat / 4096 = va.toNat / 4096 then .ok (some ⟨pa.bits + (v.bits - va.bits)⟩)
      else t.translate v := by
  obtain ⟨hva, hpa⟩ := aligned_of_mapPage (z := .kib4) done
  have course := mapSmall_course wf hva hpa f
  rw [done] at course
  have own (h : v.toNat / 4096 = va.toNat / 4096) :
      (Page.containing pa : PhysPage .kib4).locate v = ⟨pa.bits + (v.bits - va.bits)⟩ :=
    locate_containing hva hpa h
  simp only [← inDirectory_eq_and_inTable_eq_iff] at own ⊢
  cases course with
  | opened empty free a place =>
    have links := (wf.links_linkNext empty free f.user place (.inDirectory va) t.used).2
      (.inl ⟨rfl, rfl⟩)
    rw [translate_setTableEntry (i := ⟨t.used, free⟩) (wf.linkNext empty free f.user place) links,
      translate_linkNext wf empty free f.user place]
    split
    · rename_i h
      rw [TableEntry.page?_ofPage, Option.map_some, own h]
    · rfl
  | present i links entry =>
    split
    · rename_i h
      rw [← own h]
      rw [← h.1] at links
      rw [translate_of_links (wf.lt_used_of_links links) links, h.2, entry, Option.map_some]
    · rfl
  | entered i links blank =>
    rw [translate_setTableEntry wf links]
    split
    · rename_i h
      rw [TableEntry.page?_ofPage, Option.map_some, own h]
    · rfl

/-- **What mapping a large page does to the translation.** -/
theorem translate_of_mapLarge (wf : t.WellFormed) (done : mapLarge va pa f t = (.ok (), u))
    (v : VirtAddr) :
    u.translate v =
      if v.toNat / 4194304 = va.toNat / 4194304 then .ok (some ⟨pa.bits + (v.bits - va.bits)⟩)
      else t.translate v := by
  obtain ⟨hva, hpa⟩ := aligned_of_mapPage (z := .mib4) done
  have course := mapLarge_course t hva hpa f
  rw [done] at course
  have own (h : v.toNat / 4194304 = va.toNat / 4194304) :
      (Page.containing pa : PhysPage .mib4).locate v = ⟨pa.bits + (v.bits - va.bits)⟩ :=
    locate_containing hva hpa h
  simp only [← inDirectory_eq_iff] at own ⊢
  cases course with
  | present leaf =>
    split
    · rename_i h
      rw [← h] at leaf
      rw [translate_of_leaf leaf, own h]
    · rfl
  | entered empty =>
    rw [translate_setPage wf]
    split
    · rename_i h
      rw [own h]
    · rfl

/-- **What mapping a page does to the translation.** -/
theorem translate_of_mapPage (wf : t.WellFormed) (done : mapPage z va pa f t = (.ok (), u))
    (v : VirtAddr) :
    u.translate v =
      if v.toNat / z.bytes.toNat = va.toNat / z.bytes.toNat then
        .ok (some ⟨pa.bits + (v.bits - va.bits)⟩)
      else t.translate v := by
  cases z with
  | kib4 => exact translate_of_mapSmall wf done v
  | mib4 => exact translate_of_mapLarge wf done v

/-! ## A range -/

/-- From `t` on, the first `len` bytes of a range were mapped, and nothing else. -/
structure Ranged (t : AddressSpace n) (va : VirtAddr) (pa : PhysAddr) (len : Nat)
    (u : AddressSpace n) : Prop where
  sound : u.Sound
  keeps : t.Keeps u
  inside : ∀ v : VirtAddr, va.toNat ≤ v.toNat → v.toNat < va.toNat + len →
    u.translate v = .ok (some ⟨pa.bits + (v.bits - va.bits)⟩)
  outside : ∀ v : VirtAddr, ¬ (va.toNat ≤ v.toNat ∧ v.toNat < va.toNat + len) →
    u.translate v = t.translate v

theorem Ranged.start (sound : t.Sound) : t.Ranged va pa 0 t where
  sound := sound
  keeps := Keeps.refl t
  inside _ le lt := absurd le (Nat.not_le.2 lt)
  outside _ _ := rfl

/-- One page more of the range. -/
theorem Ranged.next {k : Nat} {u' : AddressSpace n} {v : VirtAddr} {p : PhysAddr}
    (h : t.Ranged va pa (k * z.bytes.toNat) u) (v_at : v.toNat = va.toNat + k * z.bytes.toNat)
    (p_at : p.toNat = pa.toNat + k * z.bytes.toNat) (done : mapPage z v p f u = (.ok (), u')) :
    t.Ranged va pa ((k + 1) * z.bytes.toNat) u' := by
  have effect := translate_of_mapPage h.sound.wellFormed done
  have own (w : VirtAddr) : w.toNat / z.bytes.toNat = v.toNat / z.bytes.toNat ↔
      va.toNat + k * z.bytes.toNat ≤ w.toNat ∧
        w.toNat < va.toNat + k * z.bytes.toNat + z.bytes.toNat := by
    rw [← v_at]
    exact samePage_iff (aligned_of_mapPage done).1
  -- Page and frame lie as far into their ranges, so the distance between the ranges is theirs.
  have offset (w : VirtAddr) : p.bits + (w.bits - v.bits) = pa.bits + (w.bits - va.bits) := by
    rw [bits_of_toNat_add v_at, bits_of_toNat_add p_at]
    grind
  have keeps' := keeps_mapPage z v p f u
  rw [done] at keeps'
  rw [Nat.succ_mul]
  refine ⟨h.sound.of_mapPage done, h.keeps.trans keeps', ?_, ?_⟩
  · intro w le lt
    rw [effect]
    split
    · rw [offset]
    · rename_i other
      rw [own] at other
      exact h.inside w le (by omega)
  · intro w out
    rw [effect, if_neg (by rw [own]; omega)]
    exact h.outside w (by omega)

/-- **What mapping a range does to the translation.** -/
theorem mapRange_ranged (sound : t.Sound) {len : Word} {k : Nat}
    (done : mapRange z va pa len f t = (.ok k, u)) :
    k * z.bytes.toNat = len.toNat ∧ t.Ranged va pa len.toNat u := by
  have range : Triple (t.Ranged va pa (0 * z.bytes.toNat)) (mapRange z va pa len f)
      (fun k u => k * z.bytes.toNat = len.toNat ∧ t.Ranged va pa (k * z.bytes.toNat) u)
      (fun _ _ => True) := by
    refine mapRange_triple (I := fun k => t.Ranged va pa (k * z.bytes.toNat)) ?_ ?_
    · exact fun _ _ _ _ => trivial
    · intro k v p v_at p_at _ s h
      rcases run : mapPage z v p f s with ⟨e | _, s'⟩
      · trivial
      · exact h.next v_at p_at run
  rw [Nat.zero_mul] at range
  obtain ⟨whole, h⟩ := range.of_ok (Ranged.start sound) done
  exact ⟨whole, whole ▸ h⟩

end AddressSpace

end ProtectedBoot.Paging
