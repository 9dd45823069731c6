/-!
# Script literals

A text as a single-quoted literal of a script. Quotes, backslashes and line breaks are escaped, so
the literal stands on one line and ends at its own closing quote. Main statement: `read_body` reads
a literal back, whatever follows it.
-/

namespace OperationGate.Text.Literal

/-- The characters that stand for one character inside a literal. -/
def escape (c : Char) : List Char :=
  if c = '\'' then ['\\', '\'']
  else if c = '\\' then ['\\', '\\']
  else if c = '\n' then ['\\', 'n']
  else if c = '\r' then ['\\', 'r']
  else [c]

/-- The characters between the quotes of a literal. -/
def body (cs : List Char) : List Char :=
  cs.flatMap escape

/-- The single-quoted literal of a text. -/
def quote (s : String) : String :=
  String.ofList ('\'' :: body s.toList ++ ['\''])

/-- The character that a backslash and the given character denote in a script literal. -/
def unescape (c : Char) : Char :=
  if c = 'n' then '\n' else if c = 'r' then '\r' else c

/-- Reads a literal after its opening quote: its text, and what follows the closing quote. A raw
line break or a missing quote makes it unreadable. -/
def read : List Char → Option (List Char × List Char)
  | [] => none
  | '\'' :: rest => some ([], rest)
  | ['\\'] => none
  | '\\' :: c :: rest => (read rest).map fun p => (unescape c :: p.1, p.2)
  | c :: rest =>
    if c = '\n' || c = '\r' then none else (read rest).map fun p => (c :: p.1, p.2)

/-- A literal reads back as its text, and reading stops right after its closing quote. -/
theorem read_body (cs rest : List Char) :
    read (body cs ++ '\'' :: rest) = some (cs, rest) := by
  induction cs with
  | nil => simp [body, read]
  | cons c cs ih =>
    have hb : body (c :: cs) = escape c ++ body cs := rfl
    rw [hb, List.append_assoc]
    unfold escape
    split
    next h => simp [read, unescape, ih, h]
    next _ =>
      split
      next h => simp [read, unescape, ih, h]
      next h₂ =>
        split
        next h => simp [read, unescape, ih, h]
        next h₃ =>
          split
          next h => simp [read, unescape, ih, h]
          next h₄ => simp [read, ih, h₂, h₃, h₄]

end OperationGate.Text.Literal
