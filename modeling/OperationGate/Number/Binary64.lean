/-!
# Double precision

Binary floating-point numbers of 64 bits as exact data: a sign, a whole mantissa and a power of two.
A quotient of natural numbers is rounded to the nearest such number, ties to the even mantissa;
products and quotients of numbers are rounded the same way.
-/

namespace OperationGate

/-- A double-precision number: `±mantissa · 2 ^ exponent`, or an infinity. In every number that
`round` makes, the mantissa has 53 bits, or fewer and the exponent is the least one. -/
inductive Binary64 where
  | finite (negative : Bool) (mantissa : Nat) (exponent : Int)
  | infinite (negative : Bool)
  deriving DecidableEq, Repr, Inhabited

namespace Binary64

/-- The exponent of the smallest positive number. -/
def minExponent : Int := -1074

/-- The greatest exponent of a finite number. -/
def maxExponent : Int := 971

/-- The quotient of two natural numbers as the nearest whole number, a tie going to the even one. -/
def divNearest (num den : Nat) : Nat :=
  let q := num / den
  let twice := 2 * (num % den)
  if den < twice || (twice == den && q % 2 == 1) then q + 1 else q

/-- A power of two splits a quotient into a new numerator and denominator of
`num / (den · 2 ^ e)`. -/
def scaleDown (num den : Nat) (e : Int) : Nat × Nat :=
  if 0 ≤ e then (num, den * Nat.pow 2 e.toNat) else (num * Nat.pow 2 (-e).toNat, den)

/-- The exponent at which a positive quotient has a mantissa of 53 bits, or the least exponent if it
is too small for that. -/
def exponentOf (num den : Nat) : Int :=
  let e : Int := (num.log2 : Int) - den.log2 - 52
  let (n, d) := scaleDown num den e
  max minExponent (if n / d < Nat.pow 2 52 then e - 1 else e)

/-- The quotient of a natural number by a positive one, rounded to the nearest double; too large a
quotient is infinite. -/
def round (negative : Bool) (num den : Nat) : Binary64 :=
  if num = 0 then finite negative 0 minExponent
  else
    let e := exponentOf num den
    let (n, d) := scaleDown num den e
    let m := divNearest n d
    let (m, e) := if m = Nat.pow 2 53 then (Nat.pow 2 52, e + 1) else (m, e)
    if maxExponent < e then infinite negative else finite negative m e

/-- A natural number, rounded. -/
def ofNat (n : Nat) : Binary64 :=
  round false n 1

/-- The decimal `±digits · 10 ^ exponent`, rounded once. Exponents beyond every double's range are
answered without computing the power. -/
def ofDecimal (negative : Bool) (digits : Nat) (exponent : Int) : Binary64 :=
  let size : Int := (Nat.toDigits 10 digits).length
  if digits = 0 then finite negative 0 minExponent
  else if 400 < exponent + size then infinite negative
  else if exponent + size < -400 then finite negative 0 minExponent
  else if 0 ≤ exponent then round negative (digits * Nat.pow 10 exponent.toNat) 1
  else round negative digits (Nat.pow 10 (-exponent).toNat)

/-- The same number with the other sign. -/
def neg : Binary64 → Binary64
  | finite s m e => finite (!s) m e
  | infinite s => infinite (!s)

/-- Tells whether a number is infinite. -/
def isInfinite : Binary64 → Bool
  | finite .. => false
  | infinite _ => true

/-- Tells whether a number has the negative sign, which zero and the infinities may have too. -/
def isNegative : Binary64 → Bool
  | finite s _ _ => s
  | infinite s => s

/-- Tells whether a number is zero of either sign. -/
def isZero : Binary64 → Bool
  | finite _ m _ => m == 0
  | infinite _ => false

/-- `m · 2 ^ e` as a quotient of natural numbers. -/
def quotient (m : Nat) (e : Int) : Nat × Nat :=
  if 0 ≤ e then (m * Nat.pow 2 e.toNat, 1) else (m, Nat.pow 2 (-e).toNat)

/-- The product of two numbers, rounded. -/
def mul : Binary64 → Binary64 → Binary64
  | finite s m e, finite t n f =>
    let (num, den) := quotient (m * n) (e + f)
    round (s != t) num den
  | a, b => infinite (a.isNegative != b.isNegative)

/-- The quotient of a number by one other than zero, rounded. -/
def div : Binary64 → Binary64 → Binary64
  | finite s m e, finite t n f =>
    let (num, den) := quotient m (e - f)
    round (s != t) num (den * n)
  | a, b => infinite (a.isNegative != b.isNegative)

end Binary64

end OperationGate
