import OperationGate.Number.Shortest

/-!
# Number texts

How the shortest decimal of a double is written out: always positionally in documents, and with an
exponent outside a range in data. The two forms share the digits and differ in a few settings.
-/

namespace OperationGate

/-- The settings of a written form of doubles. -/
structure NumberLayout where
  /-- The decimal exponents of the first digit that are written without an exponent part; none sets
  no limit. -/
  positional : Option (Int × Int)
  /-- Whether a whole number is written with a point and a zero. -/
  wholePoint : Bool

namespace NumberLayout

/-- Documents write every number positionally, and whole ones without a point. -/
def document : NumberLayout := ⟨none, false⟩

/-- Data writes magnitudes from `1e-5` up to `1e16` positionally, whole ones with `.0`, and others
with a signed exponent. -/
def data : NumberLayout := ⟨some (-5, 15), true⟩

/-- The decimal digits of a natural number. -/
def digitsOf (n : Nat) : List Char :=
  Nat.toDigits 10 n

/-- A whole number with its sign if it is negative. -/
def integerText (n : Int) : List Char :=
  if n < 0 then '-' :: digitsOf n.natAbs else digitsOf n.natAbs

/-- A decimal written positionally. -/
def positionalText (wholePoint : Bool) (ds : List Char) (exponent : Int) : List Char :=
  let point : Int := ds.length + exponent
  if 0 ≤ exponent then
    ds ++ List.replicate exponent.toNat '0' ++ if wholePoint then ['.', '0'] else []
  else if 0 < point then
    ds.take point.toNat ++ '.' :: ds.drop point.toNat
  else
    ['0', '.'] ++ List.replicate (-point).toNat '0' ++ ds

/-- A decimal written with one digit before the point and a signed exponent. -/
def exponentText (ds : List Char) (first : Int) : List Char :=
  let fraction := ds.drop 1
  ds.take 1 ++ (if fraction.isEmpty then [] else '.' :: fraction)
    ++ ['e', if first < 0 then '-' else '+'] ++ digitsOf first.natAbs

/-- The text of a double. -/
def text (layout : NumberLayout) : Binary64 → List Char
  | .infinite negative => (if negative then ['-'] else []) ++ ['i', 'n', 'f']
  | .finite negative m e =>
    let sign := if negative then ['-'] else []
    if m = 0 then sign ++ positionalText layout.wholePoint ['0'] 0
    else
      let d := Binary64.shortest m e
      let ds := digitsOf d.digits
      let first : Int := ds.length + d.exponent - 1
      let positional := match layout.positional with
        | none => true
        | some (low, high) => low ≤ first && first ≤ high
      sign ++ if positional then positionalText layout.wholePoint ds d.exponent
        else exponentText ds first

end NumberLayout

end OperationGate
