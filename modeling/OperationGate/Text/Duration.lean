import OperationGate.Text.Blank

/-!
# Durations

The form in which summaries of settings show a time of whole milliseconds: in seconds from one
second on, with as many decimals as it needs.
-/

namespace OperationGate.Text

/-- The decimals of thousandths, without zeros at the end. -/
def decimals (n : Nat) : List Char :=
  dropEndWhile (· == '0') (List.replicate (3 - (toString n).length) '0' ++ (toString n).toList)

/-- A time of whole milliseconds. -/
def duration (ms : Nat) : String :=
  if ms = 0 then "0ns"
  else if ms < 1000 then toString ms ++ "ms"
  else if ms % 1000 = 0 then toString (ms / 1000) ++ "s"
  else toString (ms / 1000) ++ "." ++ String.ofList (decimals (ms % 1000)) ++ "s"

end OperationGate.Text
