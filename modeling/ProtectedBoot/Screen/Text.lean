import ProtectedBoot.Word

/-!
# The text screen

The screen is an array of cells, 80 in a row and 25 rows, that lies in memory as two bytes for each
cell: a character and its colour. It is written and never read, so all that happens to it is a list
of **stores**.

A text is written from a cell on and clipped at the end of the row. Positions are numbers of the
machine that runs the code, and a row so far down that its cells have no offset is a fault. On the
screen itself that does not happen (`writeAt_of_row_lt`).
-/

namespace ProtectedBoot.Screen

/-- The cells in a row. -/
def columns : Nat := 80

/-- The rows of the screen. -/
def rows : Nat := 25

/-- The bytes of the screen. -/
def byteCount : Nat := columns * rows * 2

/-- The colour of a cell. -/
abbrev Colour := Byte

/-- Light grey on black. -/
def normal : Colour := 0x07

/-- Light green on black. -/
def success : Colour := 0x0A

/-- Light red on black. -/
def failure : Colour := 0x0C

/-- A byte stored at an offset from the start of the screen. -/
structure Store where
  offset : Nat
  byte : Byte
deriving DecidableEq

/-! ## Writing -/

/-- Offsets are below this bound. -/
def offsetBound : Nat := 0x10000000000000000

/-- The offset of a cell. -/
def cell (row column : Nat) : Nat := (row * columns + column) * 2

/-- The offset of a cell, or the step of its computation that leaves the offsets. -/
def cell? (row column : Nat) : Except Fault Nat :=
  if offsetBound ≤ row * columns then .error .mulOverflow
  else if offsetBound ≤ row * columns + column then .error .addOverflow
  else if offsetBound ≤ cell row column then .error .mulOverflow
  else .ok (cell row column)

/-- The stores that put one character into a cell. -/
def character (offset : Nat) (colour : Colour) (b : Byte) : List Store :=
  [⟨offset, b⟩, ⟨offset + 1, colour⟩]

/-- The stores that write a text from a cell on, clipped at the end of the row. -/
def write (row column : Nat) (colour : Colour) : List Byte → List Store
  | [] => []
  | b :: rest =>
    if column < columns then
      character (cell row column) colour b ++ write row (column + 1) colour rest
    else []

/-- The column behind a text that starts at a column. -/
def behind (column length : Nat) : Nat := max column (min columns (column + length))

/-- Write a text from a cell on, clipped at the end of the row. The answer is the column behind it;
what was stored before a fault stays. -/
def writeAt (row column : Nat) (colour : Colour) : List Byte → Except Fault Nat × List Store
  | [] => (.ok column, [])
  | b :: rest =>
    if column < columns then
      match cell? row column with
      | .error f => (.error f, [])
      | .ok c =>
        let (result, stores) := writeAt row (column + 1) colour rest
        (result, character c colour b ++ stores)
    else (.ok column, [])

theorem cell?_of_row_lt {row column : Nat} (hr : row < rows) (hc : column < columns) :
    cell? row column = .ok (cell row column) := by
  have h₃ : cell row column < offsetBound := by
    simp only [rows, columns, cell, offsetBound] at *
    omega
  have h₂ : row * columns + column < offsetBound := by
    simp only [cell] at h₃
    omega
  have h₁ : row * columns < offsetBound := by omega
  rw [cell?, if_neg (Nat.not_le.2 h₁), if_neg (Nat.not_le.2 h₂), if_neg (Nat.not_le.2 h₃)]

/-- **On the screen no write faults**, and all of its stores are as they should be. -/
theorem writeAt_of_row_lt {row : Nat} (h : row < rows) (column : Nat) (colour : Colour)
    (text : List Byte) :
    writeAt row column colour text =
      (.ok (behind column text.length), write row column colour text) := by
  induction text generalizing column with
  | nil =>
    have hb : behind column 0 = column := by
      unfold behind
      omega
    simp only [writeAt, write, List.length_nil, hb]
  | cons b rest ih =>
    by_cases hc : column < columns
    · have hcell : cell? row column = .ok (cell row column) := cell?_of_row_lt h hc
      simp only [writeAt, write, hc, if_true, hcell, ih, List.length_cons, Prod.mk.injEq,
        Except.ok.injEq, and_true]
      simp only [behind]
      omega
    · simp only [writeAt, write, hc, if_false, List.length_cons, Prod.mk.injEq,
        Except.ok.injEq, and_true]
      simp only [behind]
      omega

/-- The bytes of a text. -/
def encode (text : String) : List Byte := text.toUTF8.toList.map UInt8.toBitVec

/-! ## Memory behind the screen -/

/-- A stretch of `size` bytes of memory that starts where the screen starts. -/
structure TextMemory (size : Nat) where
  bytes : Vector Byte size

namespace TextMemory

variable {size : Nat}

/-- Nothing was stored. -/
def blank : TextMemory size := ⟨Vector.replicate size 0⟩

/-- Store a byte; what lies behind the screen is not touched. -/
def put (m : TextMemory size) (s : Store) : TextMemory size :=
  if s.offset < byteCount then ⟨m.bytes.setIfInBounds s.offset s.byte⟩ else m

/-- Store bytes in turn. -/
def putAll (m : TextMemory size) (stores : List Store) : TextMemory size := stores.foldl put m

/-- The bytes of a row. -/
def row (m : TextMemory size) (i : Nat) : List Byte :=
  (m.bytes.toList.drop (cell i 0)).take (columns * 2)

/-- The rows that hold anything, each up to its last byte that is not zero. -/
def shownRows (m : TextMemory size) : List (Nat × List Byte) :=
  ((List.range rows).map fun i => (i, ((m.row i).reverse.dropWhile (· == 0)).reverse)).filter
    fun r => !r.2.isEmpty

/-- The bytes behind the screen. -/
def tail (m : TextMemory size) : List Byte := m.bytes.toList.drop byteCount

end TextMemory

/-- The memory of the screen alone. -/
abbrev TextScreen := TextMemory byteCount

/-- The page of memory that the screen lies in. -/
abbrev TextPage := TextMemory 4096

/-- The stores that miss the screen. -/
def missed (stores : List Store) : List Store := stores.filter fun s => byteCount ≤ s.offset

end ProtectedBoot.Screen
