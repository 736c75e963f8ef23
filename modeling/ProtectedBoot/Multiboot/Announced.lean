import ProtectedBoot.Multiboot.BootInfo

/-!
# What the boot loader announced

A field of the information structure means something only if the flags announce it, and memory that an
announced field does not point to means nothing at all. `AnnounceAlike` holds of two structures, each
in a memory of its own, that announce the same and agree in what they announce; about the rest, be it
fields or memory, it says nothing.

`FoundAlike` says the same of two structures whose map and name were found already, and `EndAlike` of
two validations that nobody can tell apart by what they answer.
-/

namespace ProtectedBoot.Multiboot

/-- The memories hold the same text at `a`, up to and with the zero that ends it, or up to the end of
memory if none does. -/
def SameText (m₁ m₂ : Memory) (a : Nat) : Prop :=
  ∀ k, a + k < 0x100000000 → (∀ j, j < k → m₁.byte (a + j) ≠ 0) →
    m₂.byte (a + k) = m₁.byte (a + k)

/-- Two information structures announce the same and agree in what they announce. -/
structure AnnounceAlike (m₁ : Memory) (i₁ : Information) (m₂ : Memory) (i₂ : Information) :
    Prop where
  flags : i₂.flags = i₁.flags
  memory : i₁.flags.getLsbD 0 = true → i₂.memLower = i₁.memLower ∧ i₂.memUpper = i₁.memUpper
  map_place : i₁.flags.getLsbD 6 = true →
    i₂.mapStart = i₁.mapStart ∧ i₂.mapLength = i₁.mapLength
  map_bytes : i₁.flags.getLsbD 6 = true → i₁.mapStart ≠ .zero → ∀ k, k < i₁.mapLength.toNat →
    m₂.byte (i₁.mapStart.toNat + k) = m₁.byte (i₁.mapStart.toNat + k)
  name_place : i₁.flags.getLsbD 9 = true → i₂.loaderName = i₁.loaderName
  name_bytes : i₁.flags.getLsbD 9 = true → i₁.loaderName ≠ .zero →
    SameText m₁ m₂ i₁.loaderName.toNat

/-- A structure announces what it announces. -/
theorem AnnounceAlike.refl (m : Memory) (i : Information) : AnnounceAlike m i m i where
  flags := rfl
  memory _ := ⟨rfl, rfl⟩
  map_place _ := ⟨rfl, rfl⟩
  map_bytes _ _ _ _ := rfl
  name_place _ := rfl
  name_bytes _ _ _ _ _ := rfl

/-- Two information structures announce the same, and the maps and names that were found for them are
the same where they are announced. -/
structure FoundAlike (i₁ : Information) (map₁ : MemoryMap) (name₁ : Option (List Byte))
    (i₂ : Information) (map₂ : MemoryMap) (name₂ : Option (List Byte)) : Prop where
  flags : i₂.flags = i₁.flags
  memory : i₁.flags.getLsbD 0 = true → i₂.memLower = i₁.memLower ∧ i₂.memUpper = i₁.memUpper
  map : i₁.flags.getLsbD 6 = true → map₂ = map₁
  name : i₁.flags.getLsbD 9 = true → name₂ = name₁

/-! ## Answers -/

/-- Whatever is asked, the answer is the same, and so is the report, with the fault it may end in. -/
structure BootInfo.TellsAlike (b₁ b₂ : BootInfo) : Prop where
  flags : b₂.information.flags = b₁.information.flags
  sizes : b₂.information.basicMemory = b₁.information.basicMemory
  name : b₂.loaderName = b₁.loaderName
  regions : b₂.memoryMap.regions = b₁.memoryMap.regions
  available : ∀ start stop, b₂.rangeIsAvailable start stop = b₁.rangeIsAvailable start stop
  report : b₂.report = b₁.report

/-- Two validations end with the same error, or with the same answers to every question. -/
inductive EndAlike : Except BootInfoError BootInfo → Except BootInfoError BootInfo → Prop where
  | refused (e : BootInfoError) : EndAlike (.error e) (.error e)
  | accepted {b₁ b₂ : BootInfo} (alike : b₁.TellsAlike b₂) : EndAlike (.ok b₁) (.ok b₂)

end ProtectedBoot.Multiboot
