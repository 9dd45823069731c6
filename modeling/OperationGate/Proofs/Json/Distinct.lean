import Mathlib
import OperationGate.Proofs.Json.Reading
import OperationGate.Proofs.Number.Shortest

/-!
# Data texts tell values apart

Values with the same compact text are the same (`eq_of_compact_eq`). The reader takes the text apart
in one way only, so the values were written alike, part by part. That numbers which are written
alike are the same takes the value of what is written: the digits of a double stand for its shortest
decimal, and no two doubles share that (`NumberSource.eq_of_ofNumber_eq`).
-/

namespace OperationGate

/-- Tells that a number is one that data values have: a double is finite and in its normal form. -/
def JsonNumber.IsNormal : JsonNumber → Prop
  | .integer _ => True
  | .double (.finite _ m e) => Binary64.IsNormal m e
  | .double (.infinite _) => False

lemma JsonNumber.IsNormal.isFinite {n : JsonNumber} (h : n.IsNormal) : n.IsFinite := by
  rintro negative rfl
  exact h

namespace Json

/-! ## Numbers -/

namespace NumberSource

open NumberLayout

/-- The decimal exponent that is written. -/
def exponentValue (exponent : Option (Bool × List Char)) : Int :=
  exponent.elim 0 fun e => if e.1 then -Nat.ofDigitChars 10 e.2 0 else Nat.ofDigitChars 10 e.2 0

/-- The number that is written, without its sign. -/
def value (n : NumberSource) : ℚ :=
  Nat.ofDigitChars 10 (n.whole ++ n.fraction.getD []) 0 *
    10 ^ (exponentValue n.exponent - (n.fraction.getD []).length)

lemma value_positional (negative : Bool) (d : Nat) (k : Int) :
    (positional negative (digitsOf d) k).value = d * 10 ^ k := by
  have hdigits : Nat.ofDigitChars 10 (digitsOf d) 0 = d := Nat.ofDigitChars_ten_toDigits
  have hzero : ∀ n, Nat.ofDigitChars 10 ['0'] n = 10 * n := fun _ => rfl
  unfold positional
  dsimp only
  split
  next h =>
    obtain ⟨n, rfl⟩ := Int.eq_ofNat_of_zero_le h
    have hwhole : Nat.ofDigitChars 10 (digitsOf d ++ (List.replicate n '0' ++ ['0'])) 0 =
        d * 10 ^ n * 10 := by
      rw [Nat.ofDigitChars_append, Nat.ofDigitChars_append, hdigits,
        Nat.ofDigitChars_replicate_zero, hzero]
      ring
    simp [value, exponentValue, hwhole]
  next h =>
    split
    next hpoint =>
      simp only [value, exponentValue, Option.getD_some, Option.elim_none,
        List.take_append_drop, hdigits, List.length_drop]
      congr 2
      omega
    next hpoint =>
      have hwhole : Nat.ofDigitChars 10
          (['0'] ++ (List.replicate (-((digitsOf d).length + k)).toNat '0' ++ digitsOf d)) 0
          = d := by
        rw [Nat.ofDigitChars_append, Nat.ofDigitChars_append, hzero, Nat.mul_zero,
          Nat.ofDigitChars_replicate_zero, Nat.mul_zero, hdigits]
      simp only [value, exponentValue, Option.getD_some, Option.elim_none, hwhole,
        List.length_append, List.length_replicate]
      congr 2
      omega

lemma value_scientific (negative : Bool) (d : Nat) (k : Int) :
    (scientific negative (digitsOf d) ((digitsOf d).length + k - 1)).value = d * 10 ^ k := by
  have hdigits : Nat.ofDigitChars 10 (digitsOf d) 0 = d := Nat.ofDigitChars_ten_toDigits
  have hlen : 0 < (digitsOf d).length := List.length_pos_iff.2 (digitsOf_ne_nil d)
  have hexponent : ∀ first : Int,
      exponentValue (some (decide (first < 0), digitsOf first.natAbs)) = first := by
    intro first
    have hvalue : Nat.ofDigitChars 10 (digitsOf first.natAbs) 0 = first.natAbs :=
      Nat.ofDigitChars_ten_toDigits
    simp only [exponentValue, Option.elim_some, hvalue, decide_eq_true_eq]
    split <;> omega
  have hfraction : (if (digitsOf d).tail.isEmpty then none else some (digitsOf d).tail).getD [] =
      (digitsOf d).tail := by
    split
    next h => exact (List.isEmpty_iff.1 h).symm
    next => rfl
  have hwhole : (digitsOf d).take 1 ++ (digitsOf d).tail = digitsOf d := by
    rw [← List.drop_one, List.take_append_drop]
  unfold scientific
  simp only [value, List.drop_one, hfraction, hexponent, List.length_tail, hwhole, hdigits]
  congr 2
  omega

/-- A positive decimal is written as its value. -/
lemma value_ofDecimal (negative : Bool) (d : Decimal) : (ofDecimal negative d).value = d.value := by
  unfold ofDecimal
  dsimp only
  split
  · exact value_positional negative d.digits d.exponent
  · exact value_scientific negative d.digits d.exponent

lemma negative_ofDecimal (negative : Bool) (d : Decimal) :
    (ofDecimal negative d).negative = negative := by
  unfold ofDecimal positional
  dsimp only
  split
  · split
    · rfl
    · split <;> rfl
  · rfl

/-- A decimal is written with a fraction or an exponent. -/
lemma isSome_ofDecimal (negative : Bool) (d : Decimal) :
    (ofDecimal negative d).fraction.isSome ∨ (ofDecimal negative d).exponent.isSome := by
  unfold ofDecimal positional
  dsimp only
  split
  · split
    · exact .inl rfl
    · split <;> exact .inl rfl
  · exact .inr rfl

/-- A double is not written as a whole number is. -/
lemma ofNumber_double_ne_integer (negative : Bool) (m : Nat) (e n : Int) :
    ofNumber (.double (.finite negative m e)) ≠ ofNumber (.integer n) := by
  intro h
  have hnone : (ofNumber (.integer n)).fraction = none ∧ (ofNumber (.integer n)).exponent = none :=
    ⟨rfl, rfl⟩
  rw [← h, ofNumber] at hnone
  split at hnone
  · cases hnone.1
  · rcases isSome_ofDecimal negative (Binary64.shortest m e) with hsome | hsome
    · rw [hnone.1] at hsome
      cases hsome
    · rw [hnone.2] at hsome
      cases hsome

lemma value_shortest_pos {m : Nat} (e : Int) (hm : 0 < m) : 0 < (Binary64.shortest m e).value := by
  have hdigits : (0 : ℚ) < (Binary64.shortest m e).digits := by
    exact_mod_cast Binary64.shortest_pos hm
  exact mul_pos hdigits (by positivity)

/-- The sign and the value of a double as it is written. -/
lemma spec_ofNumber_double (negative : Bool) (m : Nat) (e : Int) :
    (ofNumber (.double (.finite negative m e))).negative = negative ∧
      (ofNumber (.double (.finite negative m e))).value = if m = 0 then 0
        else (Binary64.shortest m e).value := by
  rw [ofNumber]
  split
  · exact ⟨rfl, by simp [value, Nat.ofDigitChars]⟩
  · exact ⟨negative_ofDecimal _ _, value_ofDecimal _ _⟩

/-- Integers that are written alike are the same. -/
lemma eq_of_ofNumber_integer {n n' : Int} (h : ofNumber (.integer n) = ofNumber (.integer n')) :
    n = n' := by
  have hnegative : decide (n < 0) = decide (n' < 0) := congrArg NumberSource.negative h
  have hwhole : digitsOf n.natAbs = digitsOf n'.natAbs := congrArg NumberSource.whole h
  have hnat : n.natAbs = n'.natAbs := calc
    n.natAbs = Nat.ofDigitChars 10 (digitsOf n.natAbs) 0 := Nat.ofDigitChars_ten_toDigits.symm
    _ = Nat.ofDigitChars 10 (digitsOf n'.natAbs) 0 := by rw [hwhole]
    _ = n'.natAbs := Nat.ofDigitChars_ten_toDigits
  rw [decide_eq_decide] at hnegative
  omega

/-- Finite doubles that are written alike are the same: their shortest decimals have one value. -/
lemma eq_of_ofNumber_double {negative negative' : Bool} {m m' : Nat} {e e' : Int}
    (hn : Binary64.IsNormal m e) (hn' : Binary64.IsNormal m' e')
    (h : ofNumber (.double (.finite negative m e)) = ofNumber (.double (.finite negative' m' e'))) :
    negative = negative' ∧ m = m' ∧ e = e' := by
  obtain ⟨hsign, hvalue⟩ := spec_ofNumber_double negative m e
  obtain ⟨hsign', hvalue'⟩ := spec_ofNumber_double negative' m' e'
  rw [h] at hsign hvalue
  refine ⟨hsign.symm.trans hsign', ?_⟩
  have hvalues := hvalue.symm.trans hvalue'
  rcases Nat.eq_zero_or_pos m with rfl | hm
  · rcases Nat.eq_zero_or_pos m' with rfl | hm'
    · have he : e = Binary64.minExponent := Binary64.IsNormal.eq_of_lt hn (by decide)
      have he' : e' = Binary64.minExponent := Binary64.IsNormal.eq_of_lt hn' (by decide)
      exact ⟨rfl, he.trans he'.symm⟩
    · rw [if_pos rfl, if_neg hm'.ne'] at hvalues
      exact absurd hvalues (value_shortest_pos e' hm').ne
  · rcases Nat.eq_zero_or_pos m' with rfl | hm'
    · rw [if_pos rfl, if_neg hm.ne'] at hvalues
      exact absurd hvalues (value_shortest_pos e hm).ne'
    · rw [if_neg hm.ne', if_neg hm'.ne'] at hvalues
      exact Binary64.eq_of_value_shortest hn hm hn' hm' hvalues

/-- Numbers that are written alike are the same. -/
theorem eq_of_ofNumber_eq {n n' : JsonNumber} (hn : n.IsNormal) (hn' : n'.IsNormal)
    (h : ofNumber n = ofNumber n') : n = n' := by
  match n, n' with
  | .integer n, .integer n' => rw [eq_of_ofNumber_integer h]
  | .integer n, .double (.finite negative m e) =>
    exact absurd h.symm (ofNumber_double_ne_integer _ _ _ _)
  | .double (.finite negative m e), .integer n' =>
    exact absurd h (ofNumber_double_ne_integer _ _ _ _)
  | .double (.finite negative m e), .double (.finite negative' m' e') =>
    obtain ⟨rfl, rfl, rfl⟩ := eq_of_ofNumber_double hn hn' h
    rfl
  | .double (.infinite _), _ => exact hn.elim
  | _, .double (.infinite _) => exact hn'.elim

end NumberSource

/-! ## Values -/

namespace Source

lemma eq_of_map_ofChar_eq {s t : String}
    (h : s.toList.map TextUnit.ofChar = t.toList.map TextUnit.ofChar) : s = t := by
  have hs := textOf?_map s
  rw [h, textOf?_map t] at hs
  exact (Option.some.inj hs).symm

/-- Tells that a value is the only one that is written as it is. -/
def IsUnique (v : Json) : Prop :=
  ∀ {w : Json}, EveryNumber JsonNumber.IsNormal w → ofJson v = ofJson w → v = w

lemma eq_of_ofItems_eq {items items' : List Json} (hunique : ∀ v ∈ items, IsUnique v)
    (hitems : ∀ v ∈ items', EveryNumber JsonNumber.IsNormal v)
    (h : ofItems items = ofItems items') : items = items' := by
  induction items generalizing items' with
  | nil =>
    cases items' with
    | nil => rfl
    | cons w rest' => exact nomatch h
  | cons v rest ih =>
    cases items' with
    | nil => exact nomatch h
    | cons w rest' =>
      rw [List.forall_mem_cons] at hunique hitems
      obtain ⟨hv, hrest⟩ := List.cons.inj h
      rw [hunique.1 hitems.1 hv, ih hunique.2 hitems.2 hrest]

lemma eq_of_ofMembers_eq {members members' : List (String × Json)}
    (hunique : ∀ m ∈ members, IsUnique m.2)
    (hmembers : ∀ m ∈ members', EveryNumber JsonNumber.IsNormal m.2)
    (h : ofMembers members = ofMembers members') : members = members' := by
  induction members generalizing members' with
  | nil =>
    cases members' with
    | nil => rfl
    | cons w rest' => exact nomatch h
  | cons m rest ih =>
    cases members' with
    | nil => exact nomatch h
    | cons m' rest' =>
      rw [List.forall_mem_cons] at hunique hmembers
      obtain ⟨hmember, hrest⟩ := List.cons.inj h
      obtain ⟨hkey, hv⟩ := Prod.mk.inj hmember
      have hsame : m = m' := Prod.ext (eq_of_map_ofChar_eq hkey) (hunique.1 hmembers.1 hv)
      rw [hsame, ih hunique.2 hmembers.2 hrest]

/-- Values that are written alike are the same. -/
lemma isUnique_of_everyNumber {v : Json} (hv : EveryNumber JsonNumber.IsNormal v) : IsUnique v := by
  induction v using inductionOn with
  | null =>
    intro w _ h
    cases w with
    | null => rfl
    | _ => exact nomatch h
  | bool b =>
    intro w _ h
    cases w with
    | bool b' => exact congrArg Json.bool (Source.bool.inj h)
    | _ => exact nomatch h
  | number n =>
    intro w hw h
    cases hv with
    | number hn =>
      cases hw with
      | number hn' =>
        exact congrArg Json.number (NumberSource.eq_of_ofNumber_eq hn hn' (Source.number.inj h))
      | _ => exact nomatch h
  | text s =>
    intro w _ h
    cases w with
    | text t => exact congrArg Json.text (eq_of_map_ofChar_eq (Source.text.inj h))
    | _ => exact nomatch h
  | list items ih =>
    intro w hw h
    cases hv with
    | list hitems =>
      cases hw with
      | list hitems' =>
        exact congrArg Json.list
          (eq_of_ofItems_eq (fun v hmem => ih v hmem (hitems v hmem)) hitems' (Source.list.inj h))
      | _ => exact nomatch h
  | record members ih =>
    intro w hw h
    cases hv with
    | record hmembers =>
      cases hw with
      | record hmembers' =>
        exact congrArg Json.record
          (eq_of_ofMembers_eq (fun m hmem => ih m hmem (hmembers m hmem)) hmembers'
            (Source.record.inj h))
      | _ => exact nomatch h

end Source

lemma EveryNumber.imp {p q : JsonNumber → Prop} (hpq : ∀ n, p n → q n) {v : Json}
    (h : EveryNumber p v) : EveryNumber q v := by
  induction h with
  | null => exact .null
  | bool b => exact .bool b
  | number h => exact .number (hpq _ h)
  | text s => exact .text s
  | list _ ih => exact .list ih
  | record _ ih => exact .record ih

/-- Values with the same compact text are the same. -/
theorem eq_of_compact_eq {v w : Json} (hv : EveryNumber JsonNumber.IsNormal v)
    (hw : EveryNumber JsonNumber.IsNormal w) (h : v.compact = w.compact) : v = w := by
  have hread : Source.read? v.write = Source.read? w.write := by rw [String.ofList_injective h]
  rw [Source.read?_write (hv.imp fun _ => JsonNumber.IsNormal.isFinite),
    Source.read?_write (hw.imp fun _ => JsonNumber.IsNormal.isFinite)] at hread
  exact Source.isUnique_of_everyNumber hv hw (Option.some.inj hread)

end Json

end OperationGate
