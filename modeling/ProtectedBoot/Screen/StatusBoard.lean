import ProtectedBoot.Screen.Text

/-!
# The status board

One line of the screen for each step of the boot. A step that went well is marked in green and one
that failed in red; once the screen is full, nothing more is shown.
-/

namespace ProtectedBoot.Screen

/-- The board: the row of the next line, and everything stored so far. -/
structure StatusBoard where
  row : Nat
  stores : List Store
deriving DecidableEq

namespace StatusBoard

/-- A board whose first line goes into a given row. -/
def startingAt (row : Nat) : StatusBoard := ⟨row, []⟩

/-- Add a line, if there is room for one. -/
def add (b : StatusBoard) (stores : List Store) : StatusBoard :=
  if b.row < rows then ⟨b.row + 1, b.stores ++ stores⟩ else b

/-- Show a text. -/
def line (b : StatusBoard) (text : String) : StatusBoard :=
  b.add (write b.row 0 normal (encode text))

/-- The mark of a step that went well. -/
def goodTag : List Byte := encode "[ OK ] "

/-- The mark of a step that failed. -/
def badTag : List Byte := encode "[FAIL] "

/-- The stores that show how a step went. -/
def reportStores (row : Nat) (label : String) (ok : Bool) : List Store :=
  let tag := if ok then goodTag else badTag
  let colour := if ok then success else failure
  write row 0 colour tag ++ write row (behind 0 tag.length) normal (encode label)

/-- Show how a step went. -/
def report (b : StatusBoard) (label : String) (ok : Bool) : StatusBoard :=
  b.add (reportStores b.row label ok)

end StatusBoard

end ProtectedBoot.Screen
