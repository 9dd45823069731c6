import OperationGate.Json.Source

/-!
# Reading data

From written data to values. A whole number that fits 64 bits is exact; any other number is the
double that two roundings give: its leading digits as a double, then one product or quotient with a
power of ten. A value may be nested 127 deep. `Json.read?` reads a whole text.
-/

namespace OperationGate.Json

namespace NumberSource

/-- The greatest whole number of 64 bits. -/
def maxWord : Nat := 18446744073709551615

/-- The least whole number of 64 bits with a sign, without the sign. -/
def maxNegative : Nat := 9223372036854775808

/-- Tells whether a whole number is one of 64 bits with a sign. -/
def isWord (n : Int) : Bool :=
  -(maxNegative : Int) ≤ n && n < maxNegative

/-- The digit that a character is. -/
def digit (c : Char) : Nat :=
  c.toNat - 48

/-- Appends digits to a number as long as it fits 64 bits: the number, and the digits left over. -/
def absorb (n : Nat) : List Char → Nat × List Char
  | [] => (n, [])
  | c :: cs => if maxWord < n * 10 + digit c then (n, c :: cs) else absorb (n * 10 + digit c) cs

/-- The number of decimal digits. -/
def natOf (cs : List Char) : Nat :=
  cs.foldl (fun n c => n * 10 + digit c) 0

/-- The decimal scale of a double, rounded once; none if it is infinite. A scale below the range of
the powers of ten is divided out in two steps, and below that nothing is left. -/
def scaled (f : Binary64) (e : Int) : Option Binary64 :=
  if f.isZero then some f
  else if 308 < e then none
  else if 0 ≤ e then
    let g := f.mul (Binary64.ofNat (Nat.pow 10 e.toNat))
    if g.isInfinite then none else some g
  else if -308 ≤ e then some (f.div (Binary64.ofNat (Nat.pow 10 (-e).toNat)))
  else
    let g := f.div (Binary64.ofNat (Nat.pow 10 308))
    if -616 ≤ e then some (g.div (Binary64.ofNat (Nat.pow 10 (-e - 308).toNat)))
    else some (.finite false 0 Binary64.minExponent)

/-- The greatest exponent that is told apart from an overflowing one. -/
def maxExponent : Nat := 2147483647

/-- The double of leading digits and their decimal exponent, to which the written exponent is
added. -/
def doubleOf (significand : Nat) (start : Int) (exponent : Option (Bool × List Char)) :
    Option Binary64 :=
  match exponent with
  | none => scaled (Binary64.ofNat significand) start
  | some (negative, ds) =>
    let e := natOf ds
    if maxExponent < e then
      if significand ≠ 0 && !negative then none else some (.finite false 0 Binary64.minExponent)
    else scaled (Binary64.ofNat significand) (if negative then start - e else start + e)

/-- The number as written, or nothing if it is out of range. -/
def toNumber? (n : NumberSource) : Option JsonNumber :=
  let signed (d : Binary64) : JsonNumber := .double (if n.negative then d.neg else d)
  let (whole, left) := absorb 0 n.whole
  match n.fraction, n.exponent with
  | none, none =>
    if !left.isEmpty then (scaled (Binary64.ofNat whole) left.length).map signed
    else if !n.negative then some (.integer whole)
    else if whole = 0 || maxNegative < whole then some (signed (Binary64.ofNat whole))
    else some (.integer (-whole))
  | fraction, exponent =>
    let ds := fraction.getD []
    let (significand, unread) := absorb whole ds
    let start : Int := left.length - (ds.length - unread.length : Nat)
    (doubleOf significand start exponent).map signed

end NumberSource

/-- The text of a string as written, or nothing if a surrogate stands alone. -/
def decodeUnits : List TextUnit → Option (List Char)
  | [] => some []
  | .char c :: rest => (decodeUnits rest).map (c :: ·)
  | .unit a :: .unit b :: rest =>
    if 0xD800 ≤ a && a < 0xDC00 then
      if 0xDC00 ≤ b && b < 0xE000 then
        (decodeUnits rest).map
          (Char.ofNat (0x10000 + (a - 0xD800) * 0x400 + (b - 0xDC00)) :: ·)
      else none
    else if 0xDC00 ≤ a && a < 0xE000 then none
    else (decodeUnits (.unit b :: rest)).map (Char.ofNat a :: ·)
  | .unit a :: rest =>
    if 0xD800 ≤ a && a < 0xE000 then none else (decodeUnits rest).map (Char.ofNat a :: ·)

namespace Source

/-- The text of a string as written. -/
def textOf? (units : List TextUnit) : Option String :=
  (decodeUnits units).map String.ofList

mutual

/-- The value that was written, if its numbers are in range, its strings are texts and it is nested
at most `depth` deep. Of members with one name the last stays. -/
def toJson? (depth : Nat) : Source → Option Json
  | .null => some .null
  | .bool b => some (.bool b)
  | .number n => n.toNumber?.map .number
  | .text us => (textOf? us).map .text
  | .list items =>
    match depth with
    | 0 => none
    | depth + 1 => (toItems? depth items).map .list
  | .record members =>
    match depth with
    | 0 => none
    | depth + 1 => (toMembers? depth members).map .object

/-- The values of the items of a list. -/
def toItems? (depth : Nat) : List Source → Option (List Json)
  | [] => some []
  | v :: rest => do
    let v ← toJson? depth v
    let rest ← toItems? depth rest
    return v :: rest

/-- The members of a record in the order written. -/
def toMembers? (depth : Nat) : List (List TextUnit × Source) → Option (List (String × Json))
  | [] => some []
  | (k, v) :: rest => do
    let k ← textOf? k
    let v ← toJson? depth v
    let rest ← toMembers? depth rest
    return (k, v) :: rest

end

end Source

/-- How deep a value may be nested. -/
def maxDepth : Nat := 127

/-- Reads a whole data text. -/
def read? (s : String) : Option Json := do
  let v ← Source.read? s.toList
  v.toJson? maxDepth

end OperationGate.Json
