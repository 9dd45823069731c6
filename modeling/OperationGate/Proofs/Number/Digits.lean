import Mathlib.Tactic.Lemma
import OperationGate.Number.Layout

/-!
# Digits

The digits of a number start with none that could be left out, and the shortest decimal of a
positive double is positive.
-/

namespace OperationGate

namespace NumberLayout

lemma isDigit_of_mem_digitsOf {n : Nat} {c : Char} (h : c ∈ digitsOf n) : c.isDigit :=
  Nat.isDigit_of_mem_toDigits (by decide) (by decide) h

lemma digitsOf_ne_nil (n : Nat) : digitsOf n ≠ [] :=
  Nat.toDigits_ne_nil

/-- The digits of a positive number start with none that could be left out. -/
lemma head_digitsOf_ne {n : Nat} (h : 0 < n) : (digitsOf n).head? ≠ some '0' := by
  induction n using Nat.strongRecOn with
  | ind n ih =>
    have hdigit : ∀ d < 10, 0 < d → d.digitChar ≠ '0' := by decide
    rw [digitsOf, Nat.toDigits_eq_if (by decide)]
    split
    next hn =>
      intro he
      exact hdigit n hn h (by simpa using he)
    next hn =>
      have ih := ih (n / 10) (by omega) (by omega)
      obtain ⟨d, ds, hd⟩ := List.exists_cons_of_ne_nil (digitsOf_ne_nil (n / 10))
      rw [digitsOf] at hd ih
      rw [hd] at ih ⊢
      exact ih

lemma lt_pow_length_digits (n : Nat) : n < Nat.pow 10 (Nat.toDigits 10 n).length :=
  (Nat.length_toDigits_le_iff (by decide) Nat.length_toDigits_pos).1 (Nat.le_refl _)

lemma pow_length_digits_le {n : Nat} (h : 0 < n) :
    Nat.pow 10 ((Nat.toDigits 10 n).length - 1) ≤ n := by
  have hpos : 0 < (Nat.toDigits 10 n).length := Nat.length_toDigits_pos
  rcases Nat.eq_zero_or_pos ((Nat.toDigits 10 n).length - 1) with hlen | hlen
  · rw [hlen]
    exact h
  · refine Nat.not_lt.1 fun hlt => ?_
    have := (Nat.length_toDigits_le_iff (by decide) hlen).2 hlt
    omega

end NumberLayout

namespace Binary64

open NumberLayout

/-- A quotient of numbers with enough digits is at least one unit. -/
lemma inUnits_le {num den : Nat} {k : Int} (hnum : 0 < num)
    (hk : k < (Nat.toDigits 10 num).length - (Nat.toDigits 10 den).length) :
    (inUnits num den k).2 ≤ (inUnits num den k).1 := by
  have hlow := pow_length_digits_le hnum
  have hhigh := Nat.le_of_lt (lt_pow_length_digits den)
  have hpos : 0 < (Nat.toDigits 10 num).length := Nat.length_toDigits_pos
  generalize (Nat.toDigits 10 num).length = l at hlow hk hpos
  generalize (Nat.toDigits 10 den).length = r at hhigh hk
  unfold inUnits
  split
  next h =>
    calc den * Nat.pow 10 k.toNat
        ≤ 10 ^ r * 10 ^ k.toNat := Nat.mul_le_mul_right _ hhigh
      _ = 10 ^ (r + k.toNat) := (Nat.pow_add ..).symm
      _ ≤ 10 ^ (l - 1) := Nat.pow_le_pow_right (by decide) (by omega)
      _ ≤ num := hlow
  next h =>
    calc den
        ≤ 10 ^ r := hhigh
      _ ≤ 10 ^ (l - 1 + (-k).toNat) := Nat.pow_le_pow_right (by decide) (by omega)
      _ = 10 ^ (l - 1) * 10 ^ (-k).toNat := Nat.pow_add ..
      _ ≤ num * Nat.pow 10 (-k).toNat := Nat.mul_le_mul_right _ hlow

lemma inUnits_pos {num den : Nat} {k : Int} (h : 0 < den) : 0 < (inUnits num den k).2 := by
  unfold inUnits
  split
  · exact Nat.mul_pos h (Nat.pow_pos (by decide))
  · exact h

lemma quotient_pos {m : Nat} {e : Int} (h : 0 < m) :
    0 < (quotient m e).1 ∧ 0 < (quotient m e).2 := by
  unfold quotient
  split
  · exact ⟨Nat.mul_pos h (Nat.pow_pos (by decide)), Nat.one_pos⟩
  · exact ⟨h, Nat.pow_pos (by decide)⟩

lemma decimalPoint_le (num den : Nat) :
    decimalPoint num den ≤ (Nat.toDigits 10 num).length - (Nat.toDigits 10 den).length + 1 := by
  unfold decimalPoint
  dsimp only
  split <;> omega

/-- The decimals that are tried are positive. -/
lemma shortestFrom_pos {m : Nat} {e : Int} (hm : 0 < m) {n fuel : Nat} (h : 2 ≤ n + fuel) :
    0 < (shortestFrom m e (decimalPoint (quotient m e).1 (quotient m e).2) n fuel).digits := by
  induction fuel generalizing n with
  | zero =>
    obtain ⟨hnum, hden⟩ := quotient_pos (e := e) hm
    have hpoint := decimalPoint_le (quotient m e).1 (quotient m e).2
    rw [shortestFrom]
    exact Nat.div_pos (inUnits_le hnum (by omega)) (inUnits_pos hden)
  | succ fuel ih =>
    rw [shortestFrom]
    cases hgrid : onGrid m e (decimalPoint (quotient m e).1 (quotient m e).2 - n) with
    | none => exact ih (by omega)
    | some d =>
      unfold onGrid at hgrid
      obtain ⟨c, hc, rfl⟩ := Option.map_eq_some_iff.1 hgrid
      have := List.find?_some hc
      simp only [Bool.and_eq_true, bne_iff_ne] at this
      exact Nat.pos_of_ne_zero this.1

lemma trimmed_pos {d : Nat} {k : Int} {fuel : Nat} (h : 0 < d) :
    0 < (Decimal.trimmed d k fuel).digits := by
  induction fuel generalizing d k with
  | zero => exact h
  | succ fuel ih =>
    rw [Decimal.trimmed]
    split
    next hd =>
      simp only [Bool.and_eq_true, decide_eq_true_eq] at hd
      exact ih (by omega)
    next => exact h

/-- The shortest decimal of a positive double is positive. -/
lemma shortest_pos {m : Nat} {e : Int} (h : 0 < m) : 0 < (shortest m e).digits :=
  trimmed_pos (shortestFrom_pos h (by decide))

end Binary64

end OperationGate
