import ProtectedBoot.Attempt
import ProtectedBoot.Screen.StatusBoard

/-!
# Notices on the status board

A notice takes one row of the screen. Its cells are known before it is shown: a mark in the colour of
the outcome and a label, or a text alone, cut off at the width of the screen. `rowStores` puts cells
into a row, one beside the other from the left edge; it is what the board's stores are measured
against. `writeNotice` is the board at work, where each offset is computed and may be a fault.

What the screen shows is read back from the memory behind it, cell by cell.
-/

namespace ProtectedBoot.Screen

/-- A character in a colour. -/
structure Cell where
  byte : Byte
  colour : Colour
deriving DecidableEq

/-- A text in one colour. -/
def Cell.ofText (colour : Colour) (text : List Byte) : List Cell := text.map fun b => ⟨b, colour⟩

/-- Something to be shown on the board. -/
inductive Notice where
  /-- How a step went. -/
  | outcome (label : String) (ok : Bool)
  /-- A text. -/
  | text (text : String)
deriving DecidableEq

namespace Notice

/-- The cells of a notice, as if a row had room for all of them. -/
def cells : Notice → List Cell
  | outcome label true =>
    Cell.ofText 0x0A (encode "[ OK ] ") ++ Cell.ofText 0x07 (encode label)
  | outcome label false =>
    Cell.ofText 0x0C (encode "[FAIL] ") ++ Cell.ofText 0x07 (encode label)
  | text t => Cell.ofText 0x07 (encode t)

end Notice

/-- The stores that put cells into a row: the cell in column `k` takes the bytes `2 * k` and
`2 * k + 1` of the row's 160. Cells beyond the last column are dropped. -/
def rowStores (row : Nat) (cells : List Cell) : List Store :=
  (cells.take 80).zipIdx.flatMap fun p =>
    [⟨160 * row + 2 * p.2, p.1.byte⟩, ⟨160 * row + 2 * p.2 + 1, p.1.colour⟩]

namespace StatusBoard

/-- Show a notice. -/
def display (b : StatusBoard) : Notice → StatusBoard
  | .outcome label ok => b.report label ok
  | .text t => b.line t

/-- Show notices in turn. -/
def displayAll (b : StatusBoard) (notices : List Notice) : StatusBoard := notices.foldl display b

/-- What notice number `k` adds: all that is stored once it is shown, less what was stored before. -/
def added (b : StatusBoard) (notices : List Notice) (k : Nat) : List Store :=
  (b.displayAll (notices.take (k + 1))).stores.drop (b.displayAll (notices.take k)).stores.length

/-! ### One store after the other -/

/-- Write a text into the row of the board, with the offset of each cell computed on the way. The answer
is the column behind the text. -/
def writeText (column : Nat) (colour : Colour) (text : List Byte) : Attempt StatusBoard Empty Nat :=
  fun b =>
    let (result, stores) := writeAt b.row column colour text
    (result.mapError .fault, { b with stores := b.stores ++ stores })

/-- Write the texts of a notice, one behind the other. -/
def writeTexts : Notice → Attempt StatusBoard Empty Nat
  | .outcome label ok => do
    let column ←
      writeText 0 (if ok then success else failure) (if ok then goodTag else badTag)
    writeText column normal (encode label)
  | .text t => writeText 0 normal (encode t)

/-- Show a notice, if there is a row for it. -/
def writeNotice (x : Notice) : Attempt StatusBoard Empty Unit := do
  let b ← Attempt.state
  if b.row < rows then
    let _ ← writeTexts x
    Attempt.update fun b => { b with row := b.row + 1 }

/-- Show notices in turn. -/
def writeNotices : List Notice → Attempt StatusBoard Empty Unit
  | [] => pure ()
  | x :: rest => do
    writeNotice x
    writeNotices rest

end StatusBoard

/-! ## The screen -/

namespace TextMemory

variable {size : Nat}

/-- A byte of the memory; behind its end there are zeros. -/
def byteAt (m : TextMemory size) (offset : Nat) : Byte := m.bytes[offset]?.getD 0

/-- The cell in a row and a column. -/
def cellAt (m : TextMemory size) (row column : Nat) : Cell :=
  ⟨m.byteAt (cell row column), m.byteAt (cell row column + 1)⟩

/-- The cells of a row. -/
def rowCells (m : TextMemory size) (row : Nat) : List Cell :=
  (List.range columns).map fun column => m.cellAt row column

end TextMemory

/-- Some row of the screen starts with the cells. -/
def TextScreen.Shows (m : TextScreen) (cells : List Cell) : Prop :=
  ∃ row, row < rows ∧ cells <+: m.rowCells row

/-- A screen that was blank, after everything that was stored for the board. -/
def StatusBoard.screen (b : StatusBoard) : TextScreen := TextMemory.blank.putAll b.stores

end ProtectedBoot.Screen
