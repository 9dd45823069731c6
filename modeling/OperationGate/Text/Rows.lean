import OperationGate.Text.Cut

/-!
# Rows of numbers

Large tables are written as texts: rows are parted by commas, and a row is a number with the numbers
that belong to it, in base 16 and parted by blanks.
-/

namespace OperationGate.Text.Rows

/-- The value of a digit in base 16, in lower case. -/
def digit (c : Char) : Nat :=
  if c.isDigit then c.toNat - 48 else c.toNat - 87

/-- The number that digits stand for. -/
def number (s : String) : Nat :=
  s.toList.foldl (fun n c => n * 16 + digit c) 0

/-- A row: its first number, and the others. -/
def row (s : String) : Nat × List Nat :=
  match (splitAt ' ' s).map number with
  | n :: ns => (n, ns)
  | [] => (0, [])

/-- The rows of a table. -/
def read (lines : List String) : List (Nat × List Nat) :=
  lines.flatMap fun line => (splitAt ',' line).map row

end OperationGate.Text.Rows
