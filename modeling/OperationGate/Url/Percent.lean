import OperationGate.Text.Utf8

/-!
# Percent-encoding

Bytes written as a percent sign and two digits. Which characters stand for themselves depends on the
part of an address; characters beyond ASCII never do.
-/

namespace OperationGate.Url.Percent

/-- The digit for a number below sixteen, in upper case. -/
def digit (n : Nat) : Char :=
  if n < 10 then Char.ofNat ('0'.toNat + n) else Char.ofNat ('A'.toNat + (n - 10))

/-- The three characters for a byte. -/
def encodeByte (b : UInt8) : List Char :=
  ['%', digit (b.toNat / 16), digit (b.toNat % 16)]

/-- Encodes every character that does not stand for itself. -/
def encode (keeps : Char → Bool) (cs : List Char) : List Char :=
  cs.flatMap fun c => if keeps c then [c] else (String.utf8EncodeChar c).flatMap encodeByte

/-- The number of a digit of either case. -/
def digit? (b : UInt8) : Option Nat :=
  let n := b.toNat
  if 48 ≤ n && n ≤ 57 then some (n - 48)
  else if 65 ≤ n && n ≤ 70 then some (n - 55)
  else if 97 ≤ n && n ≤ 102 then some (n - 87)
  else none

/-- The bytes that encoded bytes stand for. A percent sign without two digits stands for itself. -/
def decode : List UInt8 → List UInt8
  | [] => []
  | [a] => [a]
  | [a, b] => [a, b]
  | a :: b :: c :: rest =>
    if a = 37 then
      match digit? b, digit? c with
      | some x, some y => UInt8.ofNat (x * 16 + y) :: decode rest
      | _, _ => a :: decode (b :: c :: rest)
    else a :: decode (b :: c :: rest)

/-- The characters that no part of an address encodes unless it has a reason: all of ASCII but
controls. -/
def isPrintable (c : Char) : Bool :=
  32 ≤ c.toNat && c.toNat < 127

/-- The characters that stand for themselves in a fragment. -/
def inFragment (c : Char) : Bool :=
  isPrintable c && !" \"<>`".toList.contains c

/-- The characters that stand for themselves in a path. -/
def inPath (c : Char) : Bool :=
  inFragment c && !"#?\x7b\x7d".toList.contains c

/-- The characters that stand for themselves in a user's name or password. -/
def inCredentials (c : Char) : Bool :=
  inPath c && !"/:;=@[\\]^|".toList.contains c

/-- The characters that stand for themselves in a query. -/
def inQuery (c : Char) : Bool :=
  isPrintable c && !" \"#<>".toList.contains c

/-- The characters that stand for themselves in the query of a web address. -/
def inWebQuery (c : Char) : Bool :=
  inQuery c && c ≠ '\''

end OperationGate.Url.Percent
