import OperationGate.Text.Visible

/-!
# Shown texts

The form in which summaries of settings show a text: in double quotes, with quotes, backslashes and
controls escaped and invisible characters written by their code point.
-/

namespace OperationGate.Text.Shown

/-- The hexadecimal digits of a number, in lower case and without leading zeros. -/
def hex (n : Nat) : List Char :=
  Nat.toDigits 16 n

/-- The characters that show one character. -/
def escape (c : Char) : List Char :=
  match c with
  | '\x00' => ['\\', '0']
  | '\t' => ['\\', 't']
  | '\n' => ['\\', 'n']
  | '\r' => ['\\', 'r']
  | '"' => ['\\', '"']
  | '\\' => ['\\', '\\']
  | c => if isVisible c then [c] else ['\\', 'u', '\x7b'] ++ hex c.toNat ++ ['\x7d']

/-- A text in double quotes. -/
def quote (s : String) : String :=
  String.ofList ('"' :: s.toList.flatMap escape ++ ['"'])

/-- A truth value as a word. -/
def flag (b : Bool) : String :=
  if b then "true" else "false"

end OperationGate.Text.Shown
