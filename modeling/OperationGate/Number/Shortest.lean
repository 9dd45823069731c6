import OperationGate.Number.Binary64

/-!
# Shortest decimals

The decimal with the fewest digits that rounds to a given double, and of those with that many digits
the one nearest to it. Digits are tried grid by grid: on the grid of `n`-digit decimals only the two
neighbours of the double can be the nearest that rounds to it.
-/

namespace OperationGate

/-- A positive decimal `digits · 10 ^ exponent`. -/
structure Decimal where
  digits : Nat
  exponent : Int
  deriving DecidableEq, Repr, Inhabited

namespace Binary64

/-- A quotient compared with the decimal unit `10 ^ k`: new numerator and denominator of
`num / (den · 10 ^ k)`. -/
def inUnits (num den : Nat) (k : Int) : Nat × Nat :=
  if 0 ≤ k then (num, den * Nat.pow 10 k.toNat) else (num * Nat.pow 10 (-k).toNat, den)

/-- The number of digits before the decimal point of a quotient that is at least one, less the zeros
after the point of a smaller one: the least `p` with `num / den < 10 ^ p`, searched near an estimate
from the lengths of the two numbers. -/
def decimalPoint (num den : Nat) : Int :=
  let estimate : Int := (Nat.toDigits 10 num).length - (Nat.toDigits 10 den).length
  let (n, d) := inUnits num den estimate
  if n < d then estimate else estimate + 1

/-- Tells whether `d · 10 ^ k` rounds to the double with the given mantissa and exponent: it lies
between the midpoints to the neighbouring doubles, or on one of them if the mantissa is even. -/
def rounds (m : Nat) (e : Int) (d : Nat) (k : Int) : Bool :=
  -- Quarters of the last place: the lower midpoint is nearer below a power of two.
  let low := if m = Nat.pow 2 52 && minExponent < e then 4 * m - 1 else 4 * m - 2
  let high := 4 * m + 2
  let (num, den) := quotient 1 (e - 2)
  let (a, b) := if 0 ≤ k then (d * Nat.pow 10 k.toNat, 1) else (d, Nat.pow 10 (-k).toNat)
  -- compare a / b with low · num / den and high · num / den
  let x := a * den
  if m % 2 = 0 then low * num * b ≤ x && x ≤ high * num * b
  else low * num * b < x && x < high * num * b

/-- The neighbour of the double on the grid of multiples of `10 ^ k` that rounds to it and is
nearest, the even one at a tie, if any does. -/
def onGrid (m : Nat) (e : Int) (k : Int) : Option Decimal :=
  let (num, den) := quotient m e
  let (n, d) := inUnits num den k
  let below := n / d
  let twice := 2 * (n % d)
  let nearestFirst :=
    if twice < d || (twice == d && below % 2 == 0) then [below, below + 1] else [below + 1, below]
  (nearestFirst.find? fun c => c != 0 && rounds m e c k).map fun c => ⟨c, k⟩

/-- Tries the grids of `n`, `n + 1`, … digits; seventeen always suffice. -/
def shortestFrom (m : Nat) (e : Int) (point : Int) : Nat → Nat → Decimal
  | n, fuel + 1 => (onGrid m e (point - n)).getD (shortestFrom m e point (n + 1) fuel)
  | n, 0 =>
    let (num, den) := quotient m e
    let (a, b) := inUnits num den (point - n)
    ⟨a / b, point - n⟩

/-- Removes zeros at the end of the digits. -/
def Decimal.trimmed (d : Nat) (k : Int) : Nat → Decimal
  | 0 => ⟨d, k⟩
  | fuel + 1 => if d % 10 = 0 && d != 0 then trimmed (d / 10) (k + 1) fuel else ⟨d, k⟩

/-- The shortest decimal of a positive finite double. -/
def shortest (m : Nat) (e : Int) : Decimal :=
  let (num, den) := quotient m e
  let s := shortestFrom m e (decimalPoint num den) 1 17
  Decimal.trimmed s.digits s.exponent 20

end Binary64

end OperationGate
