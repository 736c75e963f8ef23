/-!
# Outlines

The **outline** of a value shows its type and its parts: a constructor with named parts reads
`Name { part: value, … }`, one with positional parts `Name(value, …)`, and one without parts is its
name alone.
-/

namespace ProtectedBoot.Text

/-- The outline of a value with named parts. -/
def named (name : String) (parts : List (String × String)) : String :=
  if parts.isEmpty then name
  else name ++ " \x7b " ++ ", ".intercalate (parts.map fun p => p.1 ++ ": " ++ p.2) ++ " \x7d"

/-- The outline of a value with positional parts. -/
def applied (name : String) (parts : List String) : String :=
  name ++ "(" ++ ", ".intercalate parts ++ ")"

/-- The outline of a truth value. -/
def truth (b : Bool) : String := if b then "true" else "false"

/-- The outline of a value that may be absent. -/
def optional : Option String → String
  | some outline => applied "Some" [outline]
  | none => "None"

end ProtectedBoot.Text
