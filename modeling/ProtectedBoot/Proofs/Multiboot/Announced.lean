import ProtectedBoot.Multiboot.Announced

/-!
# What is not announced influences nobody

Reading what the boot loader left has two stages. The first follows the pointers that the flags
announce, to the map and to the name; the second validates what was found. Neither stage looks at a
field without having looked at its flag, so what the rest of the structure and the rest of memory
hold is of no consequence (`unannounced_never_matters`).

The argument goes the other way round. Validation keeps the map and the name only where they are
announced (`validate_endAlike`), so all that is left for the first stage is to find the same map and
the same name where there is one to be found (`AnnounceAlike.foundAlike`).
-/

namespace ProtectedBoot.Multiboot

variable {m₁ m₂ : Memory} {i₁ i₂ : Information} {map₁ map₂ : MemoryMap}
  {name₁ name₂ : Option (List Byte)}

/-! ## Following the pointers -/

/-- Behind a byte that is not zero the text goes on. -/
theorem SameText.tail {a : Nat} (same : SameText m₁ m₂ a) (more : m₁.byte a ≠ 0) :
    SameText m₁ m₂ (a + 1) := by
  intro k inside before
  have shift (j : Nat) : a + 1 + j = a + (j + 1) := by omega
  rw [shift] at inside ⊢
  apply same (k + 1) inside
  intro j hj
  cases j with
  | zero => exact more
  | succ j =>
    rw [← shift]
    exact before j (Nat.lt_of_succ_lt_succ hj)

/-- **The same text is read the same**, up to the zero that ends it or to the end of memory. -/
theorem untilZero_of_sameText (limit : Nat) {a : Nat} (same : SameText m₁ m₂ a)
    (inside : a + limit ≤ 0x100000000) : m₂.untilZero a limit = m₁.untilZero a limit := by
  -- By induction on the bytes that may still be read: each of them that is not zero is one less.
  induction limit generalizing a with
  | zero => rfl
  | succ limit ih =>
    have first : m₂.byte a = m₁.byte a := by
      apply same 0 (by omega)
      intro j hj
      exact absurd hj (Nat.not_lt_zero j)
    simp only [Memory.untilZero, first]
    split
    · rfl
    · rename_i more
      rw [ih (same.tail more) (by omega)]

/-- A window onto the same bytes is the same byte string. -/
theorem window_congr {start size : Nat}
    (same : ∀ k, k < size → m₂.byte (start + k) = m₁.byte (start + k)) :
    m₂.window start size = m₁.window start size := by
  refine Bytes.ext rfl ?_
  intro k hk
  exact same k hk

namespace AnnounceAlike

variable (alike : AnnounceAlike m₁ i₁ m₂ i₂)

include alike

theorem mapIn_eq (announced : i₁.flags.getLsbD 6 = true) :
    BootInfo.mapIn m₂ i₂ = BootInfo.mapIn m₁ i₁ := by
  obtain ⟨start, length⟩ := alike.map_place announced
  unfold BootInfo.mapIn
  rw [alike.flags, start, length]
  split
  · rename_i there
    rw [window_congr (alike.map_bytes announced there.2)]
  · rfl

theorem nameIn_eq (announced : i₁.flags.getLsbD 9 = true) :
    BootInfo.nameIn m₂ i₂ = BootInfo.nameIn m₁ i₁ := by
  unfold BootInfo.nameIn
  rw [alike.flags, alike.name_place announced]
  split
  · rename_i there
    have start_lt := i₁.loaderName.toNat_lt
    rw [untilZero_of_sameText _ (alike.name_bytes announced there.2) (by omega)]
  · rfl

/-- **The pointers lead to the same map and the same name**, where they are announced. -/
theorem foundAlike :
    FoundAlike i₁ (BootInfo.mapIn m₁ i₁) (BootInfo.nameIn m₁ i₁)
      i₂ (BootInfo.mapIn m₂ i₂) (BootInfo.nameIn m₂ i₂) where
  flags := alike.flags
  memory := alike.memory
  map := alike.mapIn_eq
  name := alike.nameIn_eq

end AnnounceAlike

/-! ## Validating what was found -/

/-- Every answer is computed from the flags, the sizes that mean something, the map and the name. -/
theorem BootInfo.TellsAlike.of_parts {b₁ b₂ : BootInfo}
    (flags : b₂.information.flags = b₁.information.flags)
    (sizes : b₂.information.basicMemory = b₁.information.basicMemory)
    (map : b₂.memoryMap = b₁.memoryMap) (name : b₂.nameBytes = b₁.nameBytes) :
    b₁.TellsAlike b₂ := by
  have same_name : b₂.loaderName = b₁.loaderName := by
    unfold BootInfo.loaderName
    rw [name]
  have opening : b₂.openingRecords = b₁.openingRecords := by
    unfold BootInfo.openingRecords
    rw [same_name, flags, sizes, map]
  have closing : b₂.closingRecords = b₁.closingRecords := by
    unfold BootInfo.closingRecords
    rw [map]
  refine ⟨flags, sizes, same_name, by rw [map], ?_, ?_⟩
  · intro start stop
    unfold BootInfo.rangeIsAvailable
    rw [map]
  · unfold BootInfo.report
    rw [opening, closing]

/-- The sizes of memory are told only if they are announced. -/
theorem FoundAlike.basicMemory_eq (alike : FoundAlike i₁ map₁ name₁ i₂ map₂ name₂) :
    i₂.basicMemory = i₁.basicMemory := by
  unfold Information.basicMemory
  rw [alike.flags]
  split
  · rename_i announced
    obtain ⟨lower, upper⟩ := alike.memory announced
    rw [lower, upper]
  · rfl

/-- **Validation drops what is not announced.** -/
theorem validate_endAlike (magic : Word) (alike : FoundAlike i₁ map₁ name₁ i₂ map₂ name₂) :
    EndAlike (BootInfo.validate magic i₁ map₁ name₁) (BootInfo.validate magic i₂ map₂ name₂) := by
  unfold BootInfo.validate
  rw [alike.flags]
  split
  · exact .refused _
  · split
    · exact .refused _
    · -- What is kept of the map and of the name is what the flags announce of them.
      apply EndAlike.accepted
      apply BootInfo.TellsAlike.of_parts alike.flags alike.basicMemory_eq
      · show (if _ then map₂ else _) = if _ then map₁ else _
        split
        · rename_i announced
          exact alike.map announced
        · rfl
      · show (if _ then name₂ else _) = if _ then name₁ else _
        split
        · rename_i announced
          exact alike.name announced
        · rfl

/-- **What is not announced never matters.** Whatever the magic number: of two information structures,
each somewhere in a memory of its own, that announce the same and agree in what they announce, both
are refused with the same error, or both are accepted, and then no question and no report tells them
apart. The same holds of two structures whose maps and names were found already. -/
theorem unannounced_never_matters (magic : Word) :
    (∀ (m₁ m₂ : Memory) (a₁ a₂ : PhysAddr), a₁ ≠ .zero → a₂ ≠ .zero →
      AnnounceAlike m₁ (.read m₁ a₁) m₂ (.read m₂ a₂) →
      EndAlike (BootInfo.read magic m₁ a₁) (BootInfo.read magic m₂ a₂)) ∧
    ∀ i₁ map₁ name₁ i₂ map₂ name₂, FoundAlike i₁ map₁ name₁ i₂ map₂ name₂ →
      EndAlike (BootInfo.validate magic i₁ map₁ name₁)
        (BootInfo.validate magic i₂ map₂ name₂) := by
  refine ⟨?_, fun i₁ map₁ name₁ i₂ map₂ name₂ => validate_endAlike magic⟩
  intro m₁ m₂ a₁ a₂ here₁ here₂ alike
  unfold BootInfo.read
  rw [if_neg here₁, if_neg here₂]
  split
  · exact .refused _
  · exact validate_endAlike magic alike.foundAlike

/-- What a boot loader announced: sizes of memory, a map of one record, and a name. -/
def announcedBytes : List (Nat × List Byte) := [
  (0x1000, littleEndian 4 (0x241 : Word) ++ littleEndian 4 (639 : Word) ++
    littleEndian 4 (129920 : Word)),
  (0x102C, littleEndian 4 (24 : Word) ++ littleEndian 4 (0x2000 : Word)),
  (0x1040, littleEndian 4 (0x3000 : Word)),
  (0x2000, littleEndian 4 (20 : Word) ++ littleEndian 8 (0x100000 : DoubleWord) ++
    littleEndian 8 (0x7EE0000 : DoubleWord) ++ littleEndian 4 (1 : Word)),
  (0x3000, [0x71, 0x65, 0x6D, 0x75, 0])]

/-- A memory that holds what was announced, and `rest` everywhere else. -/
def memoryAround (rest : Byte) : Memory where
  byte a := (announcedBytes.findSome? fun s => if s.1 ≤ a then s.2[a - s.1]? else none).getD rest

/-- The structure in that memory. -/
def informationAround (rest : Byte) : Information := .read (memoryAround rest) ⟨0x1000⟩

theorem announceAlike_around :
    AnnounceAlike (memoryAround 0) (informationAround 0) (memoryAround 0xFF)
      (informationAround 0xFF) where
  flags := by decide
  memory := by decide
  map_place := by decide
  map_bytes _ _ := by
    show ∀ k, k < 24 → _
    decide
  name_place := by decide
  name_bytes _ _ := by
    -- The text ends at its fifth byte.
    intro k inside before
    show (memoryAround 0xFF).byte (0x3000 + k) = (memoryAround 0).byte (0x3000 + k)
    have short : k < 5 := by
      apply Nat.lt_of_not_le
      intro long
      exact before 4 long (by decide)
    clear inside before
    revert k
    decide

theorem unannounced_never_matters_around :
    informationAround 0 ≠ informationAround 0xFF ∧
      (BootInfo.read loaderMagic (memoryAround 0) ⟨0x1000⟩).isOk = true ∧
      EndAlike (BootInfo.read loaderMagic (memoryAround 0) ⟨0x1000⟩)
        (BootInfo.read loaderMagic (memoryAround 0xFF) ⟨0x1000⟩) := by
  refine ⟨by decide, by decide, ?_⟩
  apply (unannounced_never_matters loaderMagic).1
  · decide
  · decide
  · exact announceAlike_around

end ProtectedBoot.Multiboot
