import ProtectedBoot.Bits.Field
import ProtectedBoot.Text.Outline

/-!
# Formats of packed words

A **format** names the parts of a packed word: control registers, paging entries, descriptors and
flag words all have one. It says what each part holds, who may write it, and how the whole word is
outlined. Reserved bits are in no part; they keep their value through every write.
-/

namespace ProtectedBoot

/-- What users of a format may do with a part. -/
inductive Visibility where
  /-- Read and write. -/
  | writable
  /-- Read only. -/
  | readable
  /-- Neither: the part is seen in the outline alone. -/
  | outlined
deriving DecidableEq

/-- What the bits of a part stand for. -/
inductive Content where
  /-- A truth value. -/
  | truth
  /-- A number. -/
  | number
  /-- One of several things, given by a code: `ofRequest` turns a requested number into the code
  that is stored, and `outline` shows what a code stands for. -/
  | coded (ofRequest : Nat → Nat) (outline : Nat → String)

/-- A part as its users read it. -/
inductive Reading where
  | truth (b : Bool)
  | number (n : Nat)
deriving DecidableEq

/-- A named part of a packed word of `w` bits. -/
structure Part (w : Nat) where
  name : String
  width : Nat
  field : Field w width
  content : Content
  visibility : Visibility

namespace Part

variable {w : Nat}

/-- A flag that users read and write. -/
def flag (name : String) (f : Flag w) : Part w := ⟨name, 1, f, .truth, .writable⟩

/-- A number that users read and write. -/
def number {n : Nat} (name : String) (f : Field w n) : Part w := ⟨name, n, f, .number, .writable⟩

/-- A coded part that users read and write. -/
def coded {n : Nat} (name : String) (f : Field w n) (ofRequest : Nat → Nat)
    (outline : Nat → String) : Part w :=
  ⟨name, n, f, .coded ofRequest outline, .writable⟩

/-- The same part with its writes withheld. -/
def readOnly (p : Part w) : Part w := { p with visibility := .readable }

/-- The same part, seen in the outline alone. -/
def internal (p : Part w) : Part w := { p with visibility := .outlined }

/-- The bits of the part as a number. -/
def raw (p : Part w) (v : BitVec w) : Nat := (p.field.get v).toNat

/-- The part as its users read it. -/
def reading (p : Part w) (v : BitVec w) : Reading :=
  match p.content with
  | .truth => .truth (p.raw v != 0)
  | .number | .coded .. => .number (p.raw v)

/-- The outline of the part. -/
def outline (p : Part w) (v : BitVec w) : String :=
  match p.content with
  | .truth => Text.truth (p.raw v != 0)
  | .number => toString (p.raw v)
  | .coded _ outlineOf => outlineOf (p.raw v)

/-- The number that a request for `x` stores. -/
def stored (p : Part w) (x : Nat) : Nat :=
  match p.content with
  | .truth | .number => x
  | .coded ofRequest _ => ofRequest x

/-- Write the part, or nothing if the value does not fit. -/
def put? (p : Part w) (v : BitVec w) (x : Nat) : Option (BitVec w) := p.field.put? v (p.stored x)

/-- Write the part; a fault if the value does not fit. -/
def put (p : Part w) (v : BitVec w) (x : Nat) : Except Fault (BitVec w) :=
  p.field.put v (p.stored x)

end Part

/-- The parts of a packed word, from the least significant up. -/
structure Format (w : Nat) where
  name : String
  parts : List (Part w)
  /-- The word before any part was written. -/
  initial : BitVec w

namespace Format

variable {w : Nat}

/-- A part that users may write. -/
def writable? (f : Format w) (name : String) : Option (Part w) :=
  f.parts.find? fun p => p.name == name && p.visibility == .writable

/-- The parts that users may read, with what they hold. -/
def readings (f : Format w) (v : BitVec w) : List (String × Reading) :=
  (f.parts.filter fun p => p.visibility != .outlined).map fun p => (p.name, p.reading v)

/-- The outline of the word. -/
def outline (f : Format w) (v : BitVec w) : String :=
  Text.named f.name (f.parts.map fun p => (p.name, p.outline v))

end Format

end ProtectedBoot
