import ProtectedBoot.Machine.State
import ProtectedBoot.Paging.AddressSpace

/-!
# What the paging unit goes by

Once bit 31 of `CR0` is set, the processor translates every address. How it does so hangs on two
other registers: `CR3` tells where the directory lies, bit 4 of `CR4` whether an entry of the
directory may map a large page, and bit 5 whether entries are twice as wide, in which case nothing
that was written for a directory of two-level tables makes sense.
-/

namespace ProtectedBoot.Machine.State

open Paging (AddressSpace)

variable {n : Nat}

/-- Addresses are translated. -/
def Translates (m : State) : Prop := (m.control .cr0).getLsbD 31 = true

/-- Page tables have two levels. -/
def TwoLevel (m : State) : Prop := (m.control .cr4).getLsbD 5 = false

/-- The machine is told where the directory of `t` is, without any of the bits below the page number,
and to take large pages if there are any in it. An entry of the directory maps a large page when its
bits 0 and 7 are set. -/
structure Selects (m : State) (t : AddressSpace n) : Prop where
  directory : m.control .cr3 = t.base.bits
  low : (m.control .cr3).extractLsb' 0 12 = 0
  large : ∀ s, (t.dirEntry s).bits.getLsbD 0 = true → (t.dirEntry s).bits.getLsbD 7 = true →
    (m.control .cr4).getLsbD 4 = true

instance (m : State) : Decidable m.Translates := inferInstanceAs (Decidable (_ = _))

instance (m : State) : Decidable m.TwoLevel := inferInstanceAs (Decidable (_ = _))

end ProtectedBoot.Machine.State
