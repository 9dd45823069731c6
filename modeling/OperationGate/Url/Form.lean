import OperationGate.Text.Cut
import OperationGate.Url.Percent

/-!
# Form encoding

Names with values as a query holds them: pairs between `&`, a name and its value on the two sides of
`=`, blanks as `+`, and every other character but letters, digits and `*-._` by its bytes.
-/

namespace OperationGate.Url.Form

/-- The characters that stand for themselves. -/
def keeps (c : Char) : Bool :=
  c.isAlphanum || c = '*' || c = '-' || c = '.' || c = '_'

/-- A name or a value in its encoded form. -/
def encode (s : String) : List Char :=
  s.toList.flatMap fun c => if c = ' ' then ['+'] else Percent.encode keeps [c]

/-- The text that an encoded name or value stands for. -/
def decode (cs : List Char) : String :=
  String.ofList <| Text.Utf8.decode <| Percent.decode <| Text.Utf8.encode <|
    cs.map fun c => if c = '+' then ' ' else c

/-- A pair in its encoded form. -/
def encodePair (p : String × String) : List Char :=
  encode p.1 ++ '=' :: encode p.2

/-- A query with a pair added at its end. -/
def append (query : List Char) (p : String × String) : List Char :=
  if query.isEmpty then encodePair p else query ++ '&' :: encodePair p

/-- The pair that a part of a query stands for; without `=` its value is empty. -/
def readPair (part : List Char) : String × String :=
  match Text.cutAt? '=' part with
  | some (name, value) => (decode name, decode value)
  | none => (decode part, "")

/-- The pairs of a query; empty parts are none. -/
def read (query : List Char) : List (String × String) :=
  ((query.splitOn '&').filter fun part => !part.isEmpty).map readPair

end OperationGate.Url.Form
