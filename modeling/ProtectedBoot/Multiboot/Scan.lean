import ProtectedBoot.Multiboot.Header

/-!
# The search in pieces

`Header.find` reads at offsets of the image. A boot loader that is handed pieces of byte strings works
differently: it cuts the search window off the image, cuts the window again at every offset that it
tries, and looks for a header at the start of the piece. A cut that would leave the string brings it
down; `none` stands for that here, and `some none` for a search that found nothing.
-/

namespace ProtectedBoot

namespace Bytes

/-- The first `n` bytes, if there are that many. -/
def first? (b : Bytes) (n : Nat) : Option Bytes := if n ≤ b.size then some (b.take n) else none

/-- The bytes from an offset on, which may be the end of the string, but may not lie behind it. -/
def from? (b : Bytes) (offset : Nat) : Option Bytes :=
  if h : offset ≤ b.size then
    some ⟨b.size - offset, fun i => b.byte ⟨offset + i.val, by omega⟩⟩
  else none

end Bytes

namespace Multiboot.Header

/-- The header, valid or not, at the start of a byte string. -/
def ofBytes? (b : Bytes) : Option Header := read? b 0

/-- Try offsets of a window in turn, up to the first at which there is a valid header. -/
def scanFrom (window : Bytes) : List Nat → Option (Option Nat)
  | [] => some none
  | k :: rest => do
    let piece ← window.from? k
    if (ofBytes? piece).any isValid then return some k
    scanFrom window rest

/-- Cut off the search window and try every fourth offset of it. -/
def scan (image : Bytes) : Option (Option Nat) := do
  let window ← image.first? (min image.size Platform.searchWindow.toNat)
  scanFrom window ((List.range ((window.size + 3) / 4)).map (4 * ·))

end Multiboot.Header

end ProtectedBoot
