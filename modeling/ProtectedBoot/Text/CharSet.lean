/-!
# Sets of characters

A set of characters in the form in which a standard tabulates it: runs of consecutive code points,
each given by its first and its last.
-/

namespace ProtectedBoot.Text

/-- A set of characters, as the first and the last code point of each run. -/
structure CharSet where
  runs : List (Nat × Nat)

namespace CharSet

/-- Whether a character lies in one of the runs. -/
def contains (s : CharSet) (c : Char) : Bool :=
  s.runs.any fun run => run.1 ≤ c.toNat && c.toNat ≤ run.2

/-- Whether the runs start at `bound` or later, ascend, and leave a gap between each two. -/
def ascendsFrom (bound : Nat) : List (Nat × Nat) → Bool
  | [] => true
  | (first, last) :: rest => bound ≤ first && first ≤ last && ascendsFrom (last + 2) rest

/-- Whether the runs ascend with a gap between each two: no code point is listed twice, and no two
runs could be one. -/
def ascends (s : CharSet) : Bool := ascendsFrom 0 s.runs

/-- The number of code points in ascending runs. -/
def size (s : CharSet) : Nat := s.runs.foldl (fun n run => n + (run.2 + 1 - run.1)) 0

end CharSet

end ProtectedBoot.Text
