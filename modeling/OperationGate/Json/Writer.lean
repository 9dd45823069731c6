import OperationGate.Json.Basic
import OperationGate.Number.Layout

/-!
# Writing data

The compact text of a value, without blanks, and the laid-out text with one member or item a line.
Both list the members of a record in the order in which the value holds them.
-/

namespace OperationGate

/-- The text of a number. -/
def JsonNumber.write : JsonNumber → List Char
  | .integer n => NumberLayout.integerText n
  | .double d => NumberLayout.data.text d

namespace Json

/-- The digit of a number below sixteen, in lower case. -/
def hexDigit (n : Nat) : Char :=
  Nat.digitChar n

/-- The characters that stand for one character inside a string. -/
def escape (c : Char) : List Char :=
  if c = '"' then ['\\', '"']
  else if c = '\\' then ['\\', '\\']
  else if 32 ≤ c.toNat then [c]
  else if c = '\x08' then ['\\', 'b']
  else if c = '\t' then ['\\', 't']
  else if c = '\n' then ['\\', 'n']
  else if c = '\x0c' then ['\\', 'f']
  else if c = '\r' then ['\\', 'r']
  else ['\\', 'u', '0', '0', hexDigit (c.toNat / 16), hexDigit (c.toNat % 16)]

/-- A text as a string in double quotes. -/
def writeText (s : String) : List Char :=
  '"' :: s.toList.flatMap escape ++ ['"']

mutual

/-- The compact text of a value. -/
def write : Json → List Char
  | .null => ['n', 'u', 'l', 'l']
  | .bool true => ['t', 'r', 'u', 'e']
  | .bool false => ['f', 'a', 'l', 's', 'e']
  | .number n => n.write
  | .text s => writeText s
  | .list items => '[' :: writeItems items ++ [']']
  | .record members => '\x7b' :: writeMembers members ++ ['\x7d']

/-- The items of a list with commas between them. -/
def writeItems : List Json → List Char
  | [] => []
  | [v] => write v
  | v :: rest => write v ++ ',' :: writeItems rest

/-- The members of a record with commas between them. -/
def writeMembers : List (String × Json) → List Char
  | [] => []
  | [(k, v)] => writeText k ++ ':' :: write v
  | (k, v) :: rest => writeText k ++ ':' :: write v ++ ',' :: writeMembers rest

end

/-- The compact text of a value. -/
def compact (v : Json) : String :=
  String.ofList v.write

/-- A line break and the indentation of a depth, two spaces a level. -/
def newline (depth : Nat) : List Char :=
  '\n' :: List.replicate (2 * depth) ' '

mutual

/-- The laid-out text of a value that stands at a depth. -/
def layOut (depth : Nat) : Json → List Char
  | .list [] => ['[', ']']
  | .list items => '[' :: layOutItems (depth + 1) items ++ newline depth ++ [']']
  | .record [] => ['\x7b', '\x7d']
  | .record members => '\x7b' :: layOutMembers (depth + 1) members ++ newline depth ++ ['\x7d']
  | .null => ['n', 'u', 'l', 'l']
  | .bool true => ['t', 'r', 'u', 'e']
  | .bool false => ['f', 'a', 'l', 's', 'e']
  | .number n => n.write
  | .text s => writeText s

/-- Items, each on a line of its own. -/
def layOutItems (depth : Nat) : List Json → List Char
  | [] => []
  | [v] => newline depth ++ layOut depth v
  | v :: rest => newline depth ++ layOut depth v ++ ',' :: layOutItems depth rest

/-- Members, each on a line of its own. -/
def layOutMembers (depth : Nat) : List (String × Json) → List Char
  | [] => []
  | [(k, v)] => newline depth ++ writeText k ++ ':' :: ' ' :: layOut depth v
  | (k, v) :: rest =>
    newline depth ++ writeText k ++ ':' :: ' ' :: layOut depth v ++ ',' :: layOutMembers depth rest

end

/-- The laid-out text of a value, two spaces a level. -/
def pretty (v : Json) : String :=
  String.ofList (layOut 0 v)

end Json

end OperationGate
