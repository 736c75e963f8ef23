import ProtectedBoot.Word

/-!
# Numerals

Hexadecimal text in the four shapes that the boot code prints: bare, padded to a width, marked with
`0x`, and grouped in halves of four digits as an address is shown.
-/

namespace ProtectedBoot.Text

/-- The letters used for digits above nine. -/
inductive LetterCase where
  | lower
  | upper
deriving DecidableEq

/-- One hexadecimal digit. -/
def hexDigit (letters : LetterCase) (d : Nat) : Char :=
  if d < 10 then Char.ofNat ('0'.toNat + d)
  else match letters with
    | .lower => Char.ofNat ('a'.toNat + (d - 10))
    | .upper => Char.ofNat ('A'.toNat + (d - 10))

/-- The hexadecimal digits of `n`, the most significant first; zero has one digit. -/
def hexDigits (letters : LetterCase) (n : Nat) : List Char :=
  if n < 16 then [hexDigit letters n]
  else hexDigits letters (n / 16) ++ [hexDigit letters (n % 16)]

/-- `n` in hexadecimal with at least `width` digits. -/
def hexPadded (letters : LetterCase) (width n : Nat) : String :=
  let digits := hexDigits letters n
  String.ofList (List.replicate (width - digits.length) '0' ++ digits)

/-- `0x` and as many lower-case digits as `n` needs. -/
def hex (n : Nat) : String := "0x" ++ hexPadded .lower 1 n

/-- `0x` and at least `width` lower-case digits. -/
def hexWide (width n : Nat) : String := "0x" ++ hexPadded .lower width n

/-- `0x` and eight upper-case digits. -/
def hexUpper (x : Word) : String := "0x" ++ hexPadded .upper 8 x.toNat

/-- An address: two groups of four upper-case digits, as in `0xC010_0000`. -/
def hexGrouped (x : Word) : String :=
  "0x" ++ hexPadded .upper 4 (x.toNat / 0x10000) ++ "_" ++ hexPadded .upper 4 (x.toNat % 0x10000)

/-- The digits of a byte string, two for each byte. -/
def hexBytes (bytes : List Byte) : String :=
  String.join (bytes.map fun b => hexPadded .lower 2 b.toNat)

end ProtectedBoot.Text
