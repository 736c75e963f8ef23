import ProtectedBoot.Paging.AddressSpace

/-!
# Dumps of page tables

A page table that maps a range holds an arithmetic progression: each entry differs from the one
before by a page. A dump therefore shows the entries that are not zero as **runs** of words in
arithmetic progression.
-/

namespace ProtectedBoot.Paging

/-- Words in arithmetic progression. -/
structure Run where
  /-- The position of the first word. -/
  start : Nat
  count : Nat
  first : Word
  step : Word
deriving DecidableEq

namespace Run

/-- A run of one word. -/
def single (i : Nat) (w : Word) : Run := ⟨i, 1, w, 0⟩

/-- The run with the word at position `i` behind it, if it continues the run. The second word
determines the step. -/
def extend? (r : Run) (i : Nat) (w : Word) : Option Run :=
  if r.start + r.count ≠ i then none
  else if r.count = 1 then some { r with count := 2, step := w - r.first }
  else if w = r.first + r.step * BitVec.ofNat 32 r.count then
    some { r with count := r.count + 1 }
  else none

/-- Add the word at position `i` to runs of which the last comes first. -/
def push (i : Nat) (w : Word) (runs : List Run) : List Run :=
  if w = 0 then runs
  else match runs with
    | [] => [single i w]
    | r :: rest => match r.extend? i w with
      | some s => s :: rest
      | none => single i w :: r :: rest

/-- The runs of a list of words. -/
def all (words : List Word) : List Run :=
  (words.zipIdx.foldl (fun runs p => push p.2 p.1 runs) []).reverse

end Run

/-- The runs of a directory. -/
def Directory.runs (d : Directory) : List Run := Run.all (d.toList.map DirEntry.bits)

/-- The runs of a page table. -/
def PageTable.runs (t : PageTable) : List Run := Run.all (t.toList.map TableEntry.bits)

end ProtectedBoot.Paging
