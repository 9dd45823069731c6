import Mathlib
import OperationGate.Proofs.Number.Digits

/-!
# Shortest decimals tell doubles apart

Around every double lies the interval of the numbers that round to it, up to the midpoints to its
neighbours. The intervals of two doubles share a midpoint at most, and since one of two neighbours
has an odd mantissa, only one of them takes it: a number rounds to one double only (`eq_of_rounds`).
The shortest decimal of a double lies in its interval (`exists_rounds_shortest`), because on the
grid of seventeen digits the nearest decimal always does. So doubles with the same shortest decimal
are the same (`eq_of_value_shortest`).
-/

namespace OperationGate

/-- The number that a decimal stands for. -/
def Decimal.value (d : Decimal) : ℚ :=
  d.digits * 10 ^ d.exponent

namespace Binary64

/-- A mantissa and an exponent as a finite double has them: the mantissa has 53 bits, or fewer and
the exponent is the least one. -/
structure IsNormal (m : Nat) (e : Int) : Prop where
  lt : m < 2 ^ 53
  least : minExponent ≤ e
  greatest : e ≤ maxExponent
  eq_of_lt : m < 2 ^ 52 → e = minExponent

/-- The midpoint below a double, in quarters of its last place. Below a power of two the smaller
double is nearer. -/
def lowQuarters (m : Nat) (e : Int) : Nat :=
  if m = 2 ^ 52 ∧ minExponent < e then 4 * m - 1 else 4 * m - 2

/-! ## Quotients of natural numbers -/

lemma quotient_eq (m : Nat) (e : Int) : ((quotient m e).1 : ℚ) / (quotient m e).2 = m * 2 ^ e := by
  unfold quotient
  split
  next h =>
    obtain ⟨n, rfl⟩ := Int.eq_ofNat_of_zero_le h
    simp
  next h =>
    obtain ⟨n, hn⟩ := Int.exists_eq_neg_ofNat (Int.le_of_lt (Int.not_le.1 h))
    subst hn
    simp [div_eq_mul_inv]

lemma quotient_den_pos (m : Nat) (e : Int) : 0 < (quotient m e).2 := by
  unfold quotient
  split
  · exact Nat.one_pos
  · exact Nat.pow_pos (by decide)

lemma inUnits_eq (num den : Nat) (k : Int) :
    ((inUnits num den k).1 : ℚ) / (inUnits num den k).2 = num / den / 10 ^ k := by
  unfold inUnits
  split
  next h =>
    obtain ⟨n, rfl⟩ := Int.eq_ofNat_of_zero_le h
    simp [div_div]
  next h =>
    obtain ⟨n, hn⟩ := Int.exists_eq_neg_ofNat (Int.le_of_lt (Int.not_le.1 h))
    subst hn
    simp [div_mul_eq_mul_div]

/-- A decimal as a quotient of natural numbers. -/
lemma decimalQuotient_eq (d : Nat) (k : Int) :
    let p := if 0 ≤ k then (d * Nat.pow 10 k.toNat, 1) else (d, Nat.pow 10 (-k).toNat)
    (p.1 : ℚ) / p.2 = d * 10 ^ k ∧ 0 < p.2 := by
  dsimp only
  split
  next h =>
    obtain ⟨n, rfl⟩ := Int.eq_ofNat_of_zero_le h
    simp
  next h =>
    obtain ⟨n, hn⟩ := Int.exists_eq_neg_ofNat (Int.le_of_lt (Int.not_le.1 h))
    subst hn
    exact ⟨by simp [div_eq_mul_inv], Nat.pow_pos (by decide)⟩

/-! ## The numbers that round to a double -/

section Rounds

variable {m n d : Nat} {e f k : Int}

/-- A decimal rounds to a double if it lies between the midpoints, or on one of them if the mantissa
is even. -/
lemma rounds_iff :
    rounds m e d k ↔
      if m % 2 = 0 then
        lowQuarters m e * 2 ^ (e - 2) ≤ (d * 10 ^ k : ℚ) ∧
          (d * 10 ^ k : ℚ) ≤ (4 * m + 2) * 2 ^ (e - 2)
      else
        lowQuarters m e * 2 ^ (e - 2) < (d * 10 ^ k : ℚ) ∧
        (d * 10 ^ k : ℚ) < (4 * m + 2) * 2 ^ (e - 2) := by
  have hunit := quotient_eq 1 (e - 2)
  have hunitPos := quotient_den_pos 1 (e - 2)
  obtain ⟨hdecimal, hdecimalPos⟩ := decimalQuotient_eq d k
  unfold rounds
  generalize quotient 1 (e - 2) = unit at hunit hunitPos ⊢
  generalize (if 0 ≤ k then (d * Nat.pow 10 k.toNat, 1) else (d, Nat.pow 10 (-k).toNat)) =
    decimal at hdecimal hdecimalPos ⊢
  obtain ⟨num, den⟩ := unit
  obtain ⟨a, b⟩ := decimal
  rw [Nat.cast_one, one_mul] at hunit
  have hden : (0 : ℚ) < den := by exact_mod_cast hunitPos
  have hb : (0 : ℚ) < b := by exact_mod_cast hdecimalPos
  have hle : ∀ q : Nat, q * num * b ≤ a * den ↔ (q : ℚ) * 2 ^ (e - 2) ≤ d * 10 ^ k := by
    intro q
    rw [← hunit, ← hdecimal, ← mul_div_assoc, div_le_div_iff₀ hden hb]
    exact_mod_cast Iff.rfl
  have hge : ∀ q : Nat, a * den ≤ q * num * b ↔ (d * 10 ^ k : ℚ) ≤ q * 2 ^ (e - 2) := by
    intro q
    rw [← hunit, ← hdecimal, ← mul_div_assoc, div_le_div_iff₀ hb hden]
    exact_mod_cast Iff.rfl
  have hhigh : ((4 * m + 2 : Nat) : ℚ) = 4 * m + 2 := by push_cast; rfl
  have hlow : (if m = Nat.pow 2 52 && minExponent < e then 4 * m - 1 else 4 * m - 2) =
      lowQuarters m e := by
    simp [lowQuarters]
  dsimp only
  rw [hlow, ← hhigh]
  split
  · rw [Bool.and_eq_true, decide_eq_true_eq, decide_eq_true_eq, hle, hge]
  · rw [Bool.and_eq_true, decide_eq_true_eq, decide_eq_true_eq, ← not_le, hge, ← not_le,
      hle, not_le, not_le]

/-- The midpoint above a double is not above the one below a greater double. -/
lemma high_le_low (hm : IsNormal m e) (hn : IsNormal n f) (h : e < f ∨ e = f ∧ m < n) :
    ((4 * m + 2) * 2 ^ (e - 2) : ℚ) ≤ lowQuarters n f * 2 ^ (f - 2) := by
  rcases h with h | ⟨rfl, h⟩
  · have hlarge : minExponent < f := lt_of_le_of_lt hm.least h
    have hfull : 2 ^ 52 ≤ n := Nat.not_lt.1 fun hn' => by
      have := hn.eq_of_lt hn'
      omega
    have hquarters : 4 * m + 2 ≤ 2 * lowQuarters n f := by
      have := hm.lt
      unfold lowQuarters
      split <;> omega
    have hstep : (2 * 2 ^ (e - 2) : ℚ) ≤ 2 ^ (f - 2) := by
      rw [← zpow_one_add₀ two_ne_zero]
      exact zpow_le_zpow_right₀ one_le_two (by omega)
    calc ((4 * m + 2) * 2 ^ (e - 2) : ℚ)
        ≤ (2 * lowQuarters n f) * 2 ^ (e - 2) := by
          gcongr
          exact_mod_cast hquarters
      _ = lowQuarters n f * (2 * 2 ^ (e - 2)) := by ring
      _ ≤ lowQuarters n f * 2 ^ (f - 2) := by gcongr
  · have hquarters : 4 * m + 2 ≤ lowQuarters n e := by
      unfold lowQuarters
      split <;> omega
    gcongr
    exact_mod_cast hquarters

/-- If both mantissas are even, it is below. -/
lemma high_lt_low (hm : IsNormal m e) (hn : IsNormal n f) (h : e < f ∨ e = f ∧ m < n)
    (hm2 : m % 2 = 0) (hn2 : n % 2 = 0) :
    ((4 * m + 2) * 2 ^ (e - 2) : ℚ) < lowQuarters n f * 2 ^ (f - 2) := by
  have hlt : m + 1 < 2 ^ 53 := by
    have := hm.lt
    omega
  -- The next double has an odd mantissa and lies in between.
  have hnext : ((4 * m + 2) * 2 ^ (e - 2) : ℚ) < (4 * (m + 1) + 2) * 2 ^ (e - 2) := by
    gcongr
    linarith
  refine lt_of_lt_of_le hnext ?_
  have hbetween : IsNormal (m + 1) e :=
    ⟨hlt, hm.least, hm.greatest, fun h => hm.eq_of_lt (by omega)⟩
  have := high_le_low hbetween hn (h.imp_right fun ⟨he, hlt⟩ => ⟨he, by omega⟩)
  exact_mod_cast this

/-- Where a decimal is that rounds to a double. -/
lemma mem_of_rounds (h : rounds m e d k) :
    lowQuarters m e * 2 ^ (e - 2) ≤ (d * 10 ^ k : ℚ) ∧
    (d * 10 ^ k : ℚ) ≤ (4 * m + 2) * 2 ^ (e - 2) := by
  rw [rounds_iff] at h
  split at h
  · exact h
  · exact ⟨le_of_lt h.1, le_of_lt h.2⟩

lemma lt_of_rounds (h : rounds m e d k) (hm : m % 2 = 1) :
    lowQuarters m e * 2 ^ (e - 2) < (d * 10 ^ k : ℚ) ∧
    (d * 10 ^ k : ℚ) < (4 * m + 2) * 2 ^ (e - 2) := by
  rw [rounds_iff, if_neg (by omega)] at h
  exact h

/-- No decimal rounds to a double and to a greater one. -/
lemma not_rounds_of_rounds (hm : IsNormal m e) (hn : IsNormal n f) (h : e < f ∨ e = f ∧ m < n)
    {d' : Nat} {k' : Int} (hd : rounds m e d k) (hd' : rounds n f d' k') :
    (d * 10 ^ k : ℚ) ≠ d' * 10 ^ k' := by
  intro hvalue
  have hlow := (mem_of_rounds hd').1
  have hhigh := (mem_of_rounds hd).2
  rw [← hvalue] at hlow
  rcases Nat.mod_two_eq_zero_or_one m with hm2 | hm2
  · rcases Nat.mod_two_eq_zero_or_one n with hn2 | hn2
    · have := high_lt_low hm hn h hm2 hn2
      linarith
    · have hlow := (lt_of_rounds hd' hn2).1
      have := high_le_low hm hn h
      rw [← hvalue] at hlow
      linarith
  · have hhigh := (lt_of_rounds hd hm2).2
    have := high_le_low hm hn h
    linarith

/-- A number rounds to one double only. -/
theorem eq_of_rounds (hm : IsNormal m e) (hn : IsNormal n f) {d' : Nat} {k' : Int}
    (hd : rounds m e d k) (hd' : rounds n f d' k') (hvalue : (d * 10 ^ k : ℚ) = d' * 10 ^ k') :
    m = n ∧ e = f := by
  rcases lt_trichotomy e f with h | rfl | h
  · exact absurd hvalue (not_rounds_of_rounds hm hn (.inl h) hd hd')
  · rcases lt_trichotomy m n with h | rfl | h
    · exact absurd hvalue (not_rounds_of_rounds hm hn (.inr ⟨rfl, h⟩) hd hd')
    · exact ⟨rfl, rfl⟩
    · exact absurd hvalue.symm (not_rounds_of_rounds hn hm (.inr ⟨rfl, h⟩) hd' hd)
  · exact absurd hvalue.symm (not_rounds_of_rounds hn hm (.inl h) hd' hd)

end Rounds

/-! ## The shortest decimal -/

section Shortest

variable {m : Nat} {e : Int}

/-- A decimal near a double rounds to it. -/
lemma rounds_of_abs_sub_lt (hm : 0 < m) {d : Nat} {k : Int}
    (h : |(d * 10 ^ k : ℚ) - m * 2 ^ e| < if m = 2 ^ 52 then 2 ^ (e - 2) else 2 * 2 ^ (e - 2)) :
    rounds m e d k := by
  have hquarters : (m * 2 ^ e : ℚ) = 4 * m * 2 ^ (e - 2) := by
    rw [zpow_sub₀ two_ne_zero]
    ring
  have hunit : (0 : ℚ) < 2 ^ (e - 2) := by positivity
  have hbetween : (lowQuarters m e * 2 ^ (e - 2) : ℚ) < d * 10 ^ k ∧
      (d * 10 ^ k : ℚ) < (4 * m + 2) * 2 ^ (e - 2) := by
    rw [hquarters, abs_lt] at h
    split at h
    next hpower =>
      have hlow : (lowQuarters m e : ℚ) ≤ 4 * m - 1 := by
        have : lowQuarters m e + 1 ≤ 4 * m := by
          unfold lowQuarters
          split <;> omega
        have : (lowQuarters m e + 1 : ℚ) ≤ 4 * m := by exact_mod_cast this
        linarith
      constructor <;> nlinarith
    next hpower =>
      have hlow : (lowQuarters m e : ℚ) = 4 * m - 2 := by
        rw [lowQuarters, if_neg fun h => hpower h.1, Nat.cast_sub (by omega)]
        push_cast
        rfl
      rw [hlow]
      constructor <;> linarith
  rw [rounds_iff]
  split
  · exact ⟨le_of_lt hbetween.1, le_of_lt hbetween.2⟩
  · exact hbetween

/-- A positive double has the digits before its point that are found for it. -/
lemma pow_decimalPoint_le (hm : 0 < m) :
    (10 ^ (decimalPoint (quotient m e).1 (quotient m e).2 - 1) : ℚ) ≤ m * 2 ^ e := by
  rw [← quotient_eq]
  obtain ⟨hnum, hden⟩ := quotient_pos (e := e) hm
  generalize (quotient m e).1 = num at hnum ⊢
  generalize (quotient m e).2 = den at hden ⊢
  have hdenPos : (0 : ℚ) < den := by exact_mod_cast hden
  have hestimate := inUnits_eq num den ((Nat.toDigits 10 num).length - (Nat.toDigits 10 den).length)
  have hunitPos := @inUnits_pos num den
    ((Nat.toDigits 10 num).length - (Nat.toDigits 10 den).length) hden
  unfold decimalPoint
  dsimp only
  split
  next =>
    have hlow : (10 ^ ((Nat.toDigits 10 num).length - 1) : ℚ) ≤ num := by
      exact_mod_cast NumberLayout.pow_length_digits_le hnum
    have hhigh : (den : ℚ) ≤ 10 ^ (Nat.toDigits 10 den).length := by
      exact_mod_cast Nat.le_of_lt (NumberLayout.lt_pow_length_digits den)
    have hlen : 1 ≤ (Nat.toDigits 10 num).length := Nat.length_toDigits_pos
    rw [le_div_iff₀ hdenPos]
    calc (10 ^ (((Nat.toDigits 10 num).length : ℤ) - (Nat.toDigits 10 den).length - 1) * den : ℚ)
        ≤ 10 ^ (((Nat.toDigits 10 num).length : ℤ) - (Nat.toDigits 10 den).length - 1) *
            10 ^ (Nat.toDigits 10 den).length := by gcongr
      _ = 10 ^ ((Nat.toDigits 10 num).length - 1) := by
        rw [← zpow_natCast, ← zpow_natCast, ← zpow_add₀ (by norm_num)]
        congr 1
        push_cast [hlen]
        ring
      _ ≤ num := hlow
  next hle =>
    rw [add_sub_cancel_right]
    have hunit : (0 : ℚ) <
        (inUnits num den ((Nat.toDigits 10 num).length - (Nat.toDigits 10 den).length)).2 := by
      exact_mod_cast hunitPos
    have hone : (1 : ℚ) ≤
        num / den / 10 ^ (((Nat.toDigits 10 num).length : ℤ) - (Nat.toDigits 10 den).length) := by
      rw [← hestimate, one_le_div hunit]
      exact_mod_cast Nat.not_lt.1 hle
    rwa [one_le_div (by positivity)] at hone

/-- Of the two neighbours of a quotient the one that is tried first is the nearest. -/
lemma exists_nearest {n d : Nat} (hd : 0 < d) :
    ∃ c rest, (if 2 * (n % d) < d || (2 * (n % d) == d && n / d % 2 == 0) then [n / d, n / d + 1]
      else [n / d + 1, n / d]) = c :: rest ∧ |(c : ℚ) - n / d| ≤ 1 / 2 := by
  have hdPos : (0 : ℚ) < d := by exact_mod_cast hd
  have hquotient : (n : ℚ) / d = (n / d : Nat) + (n % d : Nat) / d := by
    rw [div_eq_iff hdPos.ne', add_mul, div_mul_cancel₀ _ hdPos.ne']
    exact_mod_cast (Nat.div_add_mod' n d).symm
  split
  next h =>
    refine ⟨_, _, rfl, ?_⟩
    have hhalf : ((n % d : Nat) : ℚ) / d ≤ 1 / 2 := by
      rw [div_le_div_iff₀ hdPos two_pos]
      have : n % d * 2 ≤ 1 * d := by
        simp only [Bool.or_eq_true, decide_eq_true_eq, Bool.and_eq_true, beq_iff_eq] at h
        omega
      exact_mod_cast this
    have hpos : (0 : ℚ) ≤ (n % d : Nat) / d := by positivity
    rw [hquotient, abs_le]
    constructor <;> linarith
  next h =>
    refine ⟨_, _, rfl, ?_⟩
    have hhalf : (1 : ℚ) / 2 ≤ (n % d : Nat) / d := by
      rw [div_le_div_iff₀ two_pos hdPos]
      have : 1 * d ≤ n % d * 2 := by
        simp only [Bool.or_eq_true, decide_eq_true_eq, not_or, Nat.not_lt] at h
        omega
      exact_mod_cast this
    have hlt : ((n % d : Nat) : ℚ) / d < 1 := by
      rw [div_lt_one hdPos]
      exact_mod_cast Nat.mod_lt n hd
    rw [hquotient, abs_le]
    push_cast
    constructor <;> linarith

/-- Among the decimals of seventeen digits there is one that rounds to the double. -/
lemma exists_onGrid (h : IsNormal m e) (hm : 0 < m) :
    ∃ d, onGrid m e (decimalPoint (quotient m e).1 (quotient m e).2 - 17) = some d := by
  have hvalue := quotient_eq m e
  have hpoint := pow_decimalPoint_le (e := e) hm
  generalize decimalPoint (quotient m e).1 (quotient m e).2 = p at hpoint ⊢
  have hunits := inUnits_eq (quotient m e).1 (quotient m e).2 (p - 17)
  have hunitsPos := @inUnits_pos (quotient m e).1 (quotient m e).2 (p - 17) (quotient_den_pos m e)
  rw [hvalue] at hunits
  unfold onGrid
  dsimp only
  generalize inUnits (quotient m e).1 (quotient m e).2 (p - 17) = q at hunits hunitsPos ⊢
  obtain ⟨c, rest, hlist, hnear⟩ := @exists_nearest q.1 q.2 hunitsPos
  have hgrid : (0 : ℚ) < 10 ^ (p - 17) := by positivity
  have hspacing : (10 ^ (p - 17) * 10 ^ 16 : ℚ) ≤ m * 2 ^ e := by
    rw [← zpow_natCast, ← zpow_add₀ (by norm_num)]
    convert hpoint using 2
    push_cast
    ring
  have hclose : |(c * 10 ^ (p - 17) : ℚ) - m * 2 ^ e| ≤ 1 / 2 * 10 ^ (p - 17) := by
    have hfactor : (c * 10 ^ (p - 17) : ℚ) - m * 2 ^ e = (c - q.1 / q.2) * 10 ^ (p - 17) := by
      rw [hunits, sub_mul, div_mul_cancel₀ _ hgrid.ne']
    rw [hfactor, abs_mul, abs_of_pos hgrid]
    gcongr
  have hquarters : (m * 2 ^ e : ℚ) = 4 * m * 2 ^ (e - 2) := by
    rw [zpow_sub₀ two_ne_zero]
    ring
  have hunit : (0 : ℚ) < 2 ^ (e - 2) := by positivity
  have hrounds : rounds m e c (p - 17) := by
    refine rounds_of_abs_sub_lt hm (lt_of_le_of_lt hclose ?_)
    split
    next hpower =>
      rw [hquarters, hpower] at hspacing
      push_cast at hspacing
      linarith
    next =>
      have hlt : (m : ℚ) ≤ 2 ^ 53 := by exact_mod_cast Nat.le_of_lt h.lt
      have : (4 * m * 2 ^ (e - 2) : ℚ) ≤ 4 * 2 ^ 53 * 2 ^ (e - 2) := by gcongr
      rw [hquarters] at hspacing
      linarith
  have hne : c ≠ 0 := by
    rintro rfl
    rw [Nat.cast_zero, zero_mul, zero_sub, abs_neg, abs_of_nonneg (by positivity)] at hclose
    linarith
  refine ⟨⟨c, p - 17⟩, ?_⟩
  rw [hlist, List.find?_cons_of_pos (by simp [hne, hrounds])]
  rfl

lemma rounds_of_onGrid {k : Int} {d : Decimal} (h : onGrid m e k = some d) :
    rounds m e d.digits d.exponent := by
  unfold onGrid at h
  obtain ⟨c, hc, rfl⟩ := Option.map_eq_some_iff.1 h
  have := List.find?_some hc
  rw [Bool.and_eq_true] at this
  exact this.2

lemma rounds_shortestFrom (h : IsNormal m e) (hm : 0 < m) {n fuel : Nat} (hn : n + fuel = 18)
    (hfuel : 0 < fuel) :
    let d := shortestFrom m e (decimalPoint (quotient m e).1 (quotient m e).2) n fuel
    rounds m e d.digits d.exponent := by
  dsimp only
  induction fuel generalizing n with
  | zero => exact absurd hfuel (Nat.lt_irrefl 0)
  | succ fuel ih =>
    rw [shortestFrom]
    cases hgrid : onGrid m e (decimalPoint (quotient m e).1 (quotient m e).2 - n) with
    | some d => exact rounds_of_onGrid hgrid
    | none =>
      rcases Nat.eq_zero_or_pos fuel with rfl | hpos
      · obtain rfl : n = 17 := by omega
        obtain ⟨d, hd⟩ := exists_onGrid h hm
        cases hgrid.symm.trans hd
      · exact ih (by omega) hpos

/-- Zeros at the end do not count. -/
lemma value_trimmed (d : Nat) (k : Int) (fuel : Nat) :
    (Decimal.trimmed d k fuel).value = d * 10 ^ k := by
  induction fuel generalizing d k with
  | zero => rfl
  | succ fuel ih =>
    rw [Decimal.trimmed]
    split
    next h =>
      simp only [Bool.and_eq_true, decide_eq_true_eq] at h
      have hdigits : ((d / 10 : Nat) * 10 : ℚ) = d := by
        exact_mod_cast Nat.div_mul_cancel (Nat.dvd_of_mod_eq_zero h.1)
      rw [ih, zpow_add_one₀ (by norm_num), mul_comm ((10 : ℚ) ^ k), ← mul_assoc, hdigits]
    next => rfl

/-- The shortest decimal of a double has the value of one that rounds to it. -/
theorem exists_rounds_shortest (h : IsNormal m e) (hm : 0 < m) :
    ∃ d k, rounds m e d k ∧ (shortest m e).value = d * 10 ^ k :=
  ⟨_, _, rounds_shortestFrom h hm rfl (by decide), value_trimmed _ _ _⟩

/-- Doubles with the same shortest decimal are the same. -/
theorem eq_of_value_shortest {n : Nat} {f : Int} (h : IsNormal m e) (hm : 0 < m) (h' : IsNormal n f)
    (hn : 0 < n) (hvalue : (shortest m e).value = (shortest n f).value) : m = n ∧ e = f := by
  obtain ⟨d, k, hrounds, hd⟩ := exists_rounds_shortest h hm
  obtain ⟨d', k', hrounds', hd'⟩ := exists_rounds_shortest h' hn
  exact eq_of_rounds h h' hrounds hrounds' (hd.symm.trans (hvalue.trans hd'))

end Shortest

end Binary64

end OperationGate
