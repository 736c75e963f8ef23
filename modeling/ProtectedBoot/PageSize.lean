import ProtectedBoot.Align

/-!
# Page sizes

The two-level paging of the machine knows pages of 4 KiB and of 4 MiB. A page size is also the
granularity of a mapping.
-/

namespace ProtectedBoot

/-- The two sizes of a page. -/
inductive PageSize where
  | kib4
  | mib4
deriving DecidableEq

namespace PageSize

/-- The number of address bits below the page number. -/
def shift : PageSize → Nat
  | kib4 => 12
  | mib4 => 22

/-- The number of bytes in a page. -/
def bytes : PageSize → Word
  | kib4 => 4096
  | mib4 => 4194304

/-- The short name of the size. -/
def name : PageSize → String
  | kib4 => "4K"
  | mib4 => "4M"

/-- The number of bytes in a page is a power of two, as masks need it. -/
theorem bytes_isPowerOfTwo (z : PageSize) : z.bytes.toNat.isPowerOfTwo := by
  refine ⟨z.shift, ?_⟩
  cases z <;> rfl

theorem bytes_pos (z : PageSize) : 0 < z.bytes.toNat := Nat.pos_of_isPowerOfTwo z.bytes_isPowerOfTwo

/-- Shifting by the bits below the page number multiplies by the size of a page. -/
theorem shiftLeft_shift (z : PageSize) (n : Nat) : n <<< z.shift = n * z.bytes.toNat := by
  cases z <;> exact Nat.shiftLeft_eq ..

theorem shiftRight_shift (z : PageSize) (n : Nat) : n >>> z.shift = n / z.bytes.toNat := by
  cases z <;> exact Nat.shiftRight_eq_div_pow ..

@[simp] theorem toNat_bytes_kib4 : kib4.bytes.toNat = 4096 := rfl

@[simp] theorem toNat_bytes_mib4 : mib4.bytes.toNat = 4194304 := rfl

end PageSize

end ProtectedBoot
