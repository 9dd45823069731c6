import OperationGate.Json.Reader
import OperationGate.Json.Writer
import OperationGate.Proofs.Number.Digits
import OperationGate.Proofs.Text.Parts

/-!
# Numbers, written and read

A number that is written out is read as it was written, if what follows it does not go on with a
number: `readNumber_write`. Every number of a data value is written so: a whole number by its
digits, a double by the digits of its shortest decimal.
-/

namespace OperationGate

/-- Tells that a number is not infinite. No data value holds an infinite one. -/
def JsonNumber.IsFinite (n : JsonNumber) : Prop :=
  ∀ negative, n ≠ .double (.infinite negative)

namespace Json

/-! ## Numbers as written -/

namespace NumberSource

/-- Digits, at least one of them. -/
structure IsDigits (cs : List Char) : Prop where
  ne_nil : cs ≠ []
  isDigit : ∀ c ∈ cs, c.isDigit

/-- A number as written keeps the grammar: it starts with one zero at most if that is all there is
before the point, and digits follow a point and an exponent mark. -/
structure IsSound (n : NumberSource) : Prop where
  whole : IsDigits n.whole
  zero : n.whole.head? = some '0' → n.whole = ['0']
  fraction : ∀ ds ∈ n.fraction, IsDigits ds
  exponent : ∀ e ∈ n.exponent, IsDigits e.2

/-- The text of a fraction. -/
def fractionText (fraction : Option (List Char)) : List Char :=
  fraction.elim [] ('.' :: ·)

/-- The text of an exponent. -/
def exponentText (exponent : Option (Bool × List Char)) : List Char :=
  exponent.elim [] fun e => 'e' :: (if e.1 then '-' else '+') :: e.2

/-- The text of a number as written. -/
def write (n : NumberSource) : List Char :=
  (if n.negative then ['-'] else []) ++ n.whole ++ fractionText n.fraction ++
    exponentText n.exponent

/-- Tells that a text does not go on with a number. -/
def IsEnd (rest : List Char) : Prop :=
  ∀ c ∈ rest.head?, c.isDigit = false ∧ c ≠ '.' ∧ c ≠ 'e' ∧ c ≠ 'E'

end NumberSource

namespace Source

open NumberSource Text

/-- Digits are read up to what is no digit. -/
lemma readDigits_append {ds rest : List Char} (h : IsDigits ds)
    (hrest : ∀ c ∈ rest.head?, c.isDigit = false) : readDigits (ds ++ rest) = some (ds, rest) := by
  have hne : ds.isEmpty = false := by simpa using h.ne_nil
  simp [readDigits, takeWhile_front h.isDigit hrest, dropWhile_front h.isDigit hrest, hne]

lemma readWhole_append {ds rest : List Char} (h : IsDigits ds)
    (hzero : ds.head? = some '0' → ds = ['0']) (hrest : ∀ c ∈ rest.head?, c.isDigit = false) :
    readWhole (ds ++ rest) = some (ds, rest) := by
  cases ds with
  | nil => exact absurd rfl h.ne_nil
  | cons c ds =>
    by_cases hc : c = '0'
    · rw [hzero (by rw [hc]; rfl)]
      rfl
    · have := readDigits_append h hrest
      rw [List.cons_append] at this ⊢
      unfold readWhole
      split
      next he => exact absurd (List.cons.inj he).1 hc
      next => exact this

lemma readFraction_append {fraction : Option (List Char)} (h : ∀ ds ∈ fraction, IsDigits ds)
    {rest : List Char} (hrest : ∀ c ∈ rest.head?, c.isDigit = false ∧ c ≠ '.') :
    readFraction (fractionText fraction ++ rest) = some (fraction, rest) := by
  cases fraction with
  | none =>
    unfold readFraction fractionText
    split
    next he => exact absurd rfl (hrest '.' (by rw [← List.nil_append rest]; exact he ▸ rfl)).2
    next => rfl
  | some ds =>
    have := readDigits_append (h ds rfl) fun c hc => (hrest c hc).1
    simp [fractionText, readFraction, this]

lemma readExponent_append {exponent : Option (Bool × List Char)} (h : ∀ e ∈ exponent, IsDigits e.2)
    {rest : List Char} (hrest : ∀ c ∈ rest.head?, c.isDigit = false ∧ c ≠ 'e' ∧ c ≠ 'E') :
    readExponent (exponentText exponent ++ rest) = some (exponent, rest) := by
  cases exponent with
  | none =>
    cases rest with
    | nil => rfl
    | cons c rest =>
      have hc := hrest c rfl
      simp [exponentText, readExponent, hc.2.1, hc.2.2]
  | some e =>
    obtain ⟨negative, ds⟩ := e
    have := readDigits_append (h _ rfl) fun c hc => (hrest c hc).1
    cases negative <;> simp [exponentText, readExponent, this]

lemma readMagnitude_append {n : NumberSource} (h : n.IsSound) {rest : List Char}
    (hrest : IsEnd rest) :
    readMagnitude n.negative
        (n.whole ++ fractionText n.fraction ++ exponentText n.exponent ++ rest) =
        some (n, rest) := by
  have hexponent : ∀ c ∈ (exponentText n.exponent ++ rest).head?, c.isDigit = false ∧ c ≠ '.' := by
    intro c hc
    cases he : n.exponent with
    | none => exact ⟨(hrest c (by simpa [he, exponentText] using hc)).1,
        (hrest c (by simpa [he, exponentText] using hc)).2.1⟩
    | some e =>
      obtain rfl : 'e' = c := by simpa [he, exponentText] using hc
      decide
  have hfraction : ∀ c ∈ (fractionText n.fraction ++ (exponentText n.exponent ++ rest)).head?,
      c.isDigit = false := by
    intro c hc
    cases hf : n.fraction with
    | none => exact (hexponent c (by simpa [hf, fractionText] using hc)).1
    | some ds =>
      obtain rfl : '.' = c := by simpa [hf, fractionText] using hc
      decide
  have hend : ∀ c ∈ rest.head?, c.isDigit = false ∧ c ≠ 'e' ∧ c ≠ 'E' := fun c hc =>
    ⟨(hrest c hc).1, (hrest c hc).2.2⟩
  rw [readMagnitude, List.append_assoc, List.append_assoc,
    readWhole_append h.whole h.zero hfraction]
  simp [readFraction_append h.fraction hexponent, readExponent_append h.exponent hend]

/-- A number is read as it was written. -/
theorem readNumber_write {n : NumberSource} (h : n.IsSound) {rest : List Char}
    (hrest : IsEnd rest) : readNumber (n.write ++ rest) = some (n, rest) := by
  have hread := readMagnitude_append h hrest
  cases hn : n.negative with
  | true =>
    rw [hn] at hread
    simpa [NumberSource.write, hn, readNumber] using hread
  | false =>
    rw [hn] at hread
    have hhead : ∀ rest', n.whole ++ fractionText n.fraction ++ exponentText n.exponent ++ rest ≠
        '-' :: rest' := by
      intro rest' he
      cases hw : n.whole with
      | nil => exact h.whole.ne_nil hw
      | cons c cs =>
        rw [hw] at he
        have hc := h.whole.isDigit c (hw ▸ List.mem_cons_self)
        rw [(List.cons.inj he).1] at hc
        exact absurd hc (by decide)
    rw [NumberSource.write, hn]
    unfold readNumber
    split
    next rest' he => exact absurd he (hhead rest')
    next => exact hread

/-- The text of a number starts with a digit or a sign. -/
lemma head_write {n : NumberSource} (h : n.IsSound) :
    ∃ c cs, n.write = c :: cs ∧ (c = '-' ∨ c.isDigit) := by
  obtain ⟨c, cs, hw⟩ := List.exists_cons_of_ne_nil h.whole.ne_nil
  rw [NumberSource.write, hw]
  cases n.negative with
  | true => exact ⟨'-', _, rfl, .inl rfl⟩
  | false => exact ⟨c, _, rfl, .inr (h.whole.isDigit c (hw ▸ List.mem_cons_self))⟩

end Source

/-! ## Numbers of data values -/

namespace NumberSource

open NumberLayout

/-- A decimal written positionally, with a point. -/
def positional (negative : Bool) (ds : List Char) (exponent : Int) : NumberSource :=
  let point : Int := ds.length + exponent
  if 0 ≤ exponent then ⟨negative, ds ++ List.replicate exponent.toNat '0', some ['0'], none⟩
  else if 0 < point then ⟨negative, ds.take point.toNat, some (ds.drop point.toNat), none⟩
  else ⟨negative, ['0'], some (List.replicate (-point).toNat '0' ++ ds), none⟩

/-- A decimal written with one digit before the point and an exponent. -/
def scientific (negative : Bool) (ds : List Char) (first : Int) : NumberSource :=
  ⟨negative, ds.take 1, if (ds.drop 1).isEmpty then none else some (ds.drop 1),
    some (first < 0, digitsOf first.natAbs)⟩

/-- A positive decimal written as data writes it. -/
def ofDecimal (negative : Bool) (d : Decimal) : NumberSource :=
  let ds := digitsOf d.digits
  let first : Int := ds.length + d.exponent - 1
  if -5 ≤ first && first ≤ 15 then positional negative ds d.exponent
    else scientific negative ds first

/-- A number of a data value as it is written. An infinity, which no data value holds, is left as a
zero. -/
def ofNumber : JsonNumber → NumberSource
  | .integer n => ⟨n < 0, digitsOf n.natAbs, none, none⟩
  | .double (.infinite negative) => ⟨negative, ['0'], none, none⟩
  | .double (.finite negative m e) =>
    if m = 0 then ⟨negative, ['0'], some ['0'], none⟩
      else ofDecimal negative (Binary64.shortest m e)

lemma isDigits_digitsOf (n : Nat) : IsDigits (digitsOf n) :=
  ⟨digitsOf_ne_nil n, fun _ hc => isDigit_of_mem_digitsOf hc⟩

lemma IsDigits.append_replicate {ds : List Char} (h : IsDigits ds) (n : Nat) :
    IsDigits (ds ++ List.replicate n '0') := by
  refine ⟨fun he => h.ne_nil (List.append_eq_nil_iff.1 he).1, fun c hc => ?_⟩
  rcases List.mem_append.1 hc with hc | hc
  · exact h.isDigit c hc
  · exact (List.mem_replicate.1 hc).2 ▸ rfl

lemma isDigits_zero : IsDigits ['0'] :=
  ⟨by simp, by simp⟩

lemma isSound_positional {negative : Bool} {ds : List Char} {exponent : Int} (h : IsDigits ds)
    (hzero : ds.head? ≠ some '0') : (positional negative ds exponent).IsSound := by
  have hnone : ∀ e ∈ (none : Option (Bool × List Char)), IsDigits e.2 := fun _ he => nomatch he
  have hlen : 0 < ds.length := List.length_pos_iff.2 h.ne_nil
  unfold positional
  dsimp only
  split
  next =>
    refine ⟨h.append_replicate _, fun he => ?_, by simp [isDigits_zero], hnone⟩
    obtain ⟨c, cs, rfl⟩ := List.exists_cons_of_ne_nil h.ne_nil
    exact absurd he hzero
  next hneg =>
    split
    next hpoint =>
      have htake : (ds.take ((ds.length : Int) + exponent).toNat).head? = ds.head? := by
        rw [List.head?_take, if_neg (by omega)]
      refine ⟨⟨fun he => ?_, fun c hc => h.isDigit c (List.mem_of_mem_take hc)⟩,
        fun he => absurd (htake ▸ he) hzero, ?_, hnone⟩
      · have := congrArg List.length he
        rw [List.length_take, List.length_nil] at this
        omega
      · rintro _ ⟨⟩
        refine ⟨fun he => ?_, fun c hc => h.isDigit c (List.mem_of_mem_drop hc)⟩
        have := congrArg List.length he
        rw [List.length_drop, List.length_nil] at this
        omega
    next =>
      refine ⟨isDigits_zero, fun _ => rfl, ?_, hnone⟩
      rintro _ ⟨⟩
      refine ⟨fun he => h.ne_nil (List.append_eq_nil_iff.1 he).2, fun c hc => ?_⟩
      rcases List.mem_append.1 hc with hc | hc
      · exact (List.mem_replicate.1 hc).2 ▸ rfl
      · exact h.isDigit c hc

lemma isSound_scientific {negative : Bool} {ds : List Char} {first : Int} (h : IsDigits ds)
    (hzero : ds.head? ≠ some '0') : (scientific negative ds first).IsSound := by
  obtain ⟨c, cs, rfl⟩ := List.exists_cons_of_ne_nil h.ne_nil
  refine ⟨⟨by simp [scientific], fun d hd => h.isDigit d (List.mem_of_mem_take hd)⟩,
    fun he => absurd (by simpa [scientific] using he) hzero, fun ds hds => ?_, ?_⟩
  · cases cs with
    | nil => simp [scientific] at hds
    | cons d cs =>
      obtain rfl : d :: cs = ds := by simpa [scientific] using hds
      exact ⟨by simp, fun e he => h.isDigit e (List.mem_cons_of_mem _ he)⟩
  · rintro _ ⟨⟩
    exact isDigits_digitsOf _

/-- Every number of a data value is written as the grammar asks for. -/
lemma isSound_ofNumber (n : JsonNumber) : (ofNumber n).IsSound := by
  have hnone : ∀ e ∈ (none : Option (Bool × List Char)), IsDigits e.2 := fun _ he => nomatch he
  cases n with
  | integer n =>
    refine ⟨isDigits_digitsOf _, fun he => ?_, by simp [ofNumber], hnone⟩
    rcases Nat.eq_zero_or_pos n.natAbs with hn | hn
    · simp only [ofNumber, hn]
      rfl
    · exact absurd he (head_digitsOf_ne hn)
  | double d =>
    cases d with
    | infinite negative => exact ⟨isDigits_zero, fun _ => rfl, by simp [ofNumber], hnone⟩
    | finite negative m e =>
      rw [ofNumber]
      split
      next => exact ⟨isDigits_zero, fun _ => rfl, by simp [isDigits_zero], hnone⟩
      next hm =>
        have hhead := head_digitsOf_ne (Binary64.shortest_pos (e := e) (Nat.pos_of_ne_zero hm))
        unfold ofDecimal
        dsimp only
        split
        · exact isSound_positional (isDigits_digitsOf _) hhead
        · exact isSound_scientific (isDigits_digitsOf _) hhead

lemma write_positional (negative : Bool) (ds : List Char) (exponent : Int) :
    (positional negative ds exponent).write =
      (if negative then ['-'] else []) ++ positionalText true ds exponent := by
  unfold positional positionalText
  dsimp only
  split
  · simp [write, fractionText, exponentText]
  · split <;> simp [write, fractionText, exponentText]

lemma write_scientific (negative : Bool) (ds : List Char) (first : Int) :
    (scientific negative ds first).write =
      (if negative then ['-'] else []) ++ NumberLayout.exponentText ds first := by
  have hfraction : fractionText (if (ds.drop 1).isEmpty then none else some (ds.drop 1)) =
      if (ds.drop 1).isEmpty then [] else '.' :: ds.drop 1 := by
    split <;> rfl
  rw [scientific, write, hfraction, NumberLayout.exponentText]
  by_cases hfirst : first < 0 <;> simp [exponentText, hfirst]

/-- A number of a data value, unless it is infinite, is written as its text. -/
lemma write_ofNumber {n : JsonNumber} (h : n.IsFinite) :
    (ofNumber n).write = n.write := by
  cases n with
  | integer n =>
    by_cases hn : n < 0 <;> simp [ofNumber, write, fractionText, exponentText, JsonNumber.write,
      integerText, hn]
  | double d =>
    cases d with
    | infinite negative => exact absurd rfl (h negative)
    | finite negative m e =>
      rw [ofNumber, JsonNumber.write, NumberLayout.text]
      split
      next => simp [write, fractionText, exponentText, positionalText, data]
      next =>
        unfold ofDecimal
        dsimp only [data]
        split
        · rw [write_positional]
        · rw [write_scientific]

/-! ## Numbers that are read as they were -/

/-- Tells that a number is read from its text as it is. -/
def IsRestored (n : JsonNumber) : Prop :=
  n.IsFinite ∧ (ofNumber n).toNumber? = some n

lemma le_ofDigitChars (cs : List Char) (n : Nat) : n ≤ Nat.ofDigitChars 10 cs n := by
  rw [Nat.ofDigitChars_eq_ofDigitChars_zero]
  have : 1 * n ≤ 10 ^ cs.length * n := Nat.mul_le_mul_right n (Nat.pow_pos (by decide))
  omega

/-- Digits are all taken up by a number that fits. -/
lemma absorb_of_le {cs : List Char} {n : Nat} (h : Nat.ofDigitChars 10 cs n ≤ maxWord) :
    absorb n cs = (Nat.ofDigitChars 10 cs n, []) := by
  induction cs generalizing n with
  | nil => rfl
  | cons c cs ih =>
    have hstep : n * 10 + digit c = 10 * n + (c.toNat - '0'.toNat) := by
      rw [Nat.mul_comm]
      rfl
    rw [Nat.ofDigitChars_cons, ← hstep] at h ⊢
    rw [absorb, if_neg (Nat.not_lt.2 (Nat.le_trans (le_ofDigitChars cs _) h)), ih h]

/-- Whole numbers of 64 bits, signed or not, are read as they were. -/
lemma isRestored_integer {n : Int} (hlow : -(maxNegative : Int) ≤ n) (hhigh : n ≤ maxWord) :
    IsRestored (.integer n) := by
  refine ⟨fun _ => by simp, ?_⟩
  have hword : n.natAbs ≤ maxWord := by
    have : maxNegative ≤ maxWord := by decide
    omega
  have habsorb : absorb 0 (digitsOf n.natAbs) = (n.natAbs, []) := by
    have hvalue : Nat.ofDigitChars 10 (digitsOf n.natAbs) 0 = n.natAbs :=
      Nat.ofDigitChars_ten_toDigits
    rw [absorb_of_le (by rw [hvalue]; exact hword), hvalue]
  simp only [toNumber?, ofNumber, habsorb, List.isEmpty_nil, Bool.not_true,
    Bool.false_eq_true, if_false]
  by_cases hn : n < 0
  · have hzero : n.natAbs ≠ 0 := by omega
    have hle : ¬maxNegative < n.natAbs := by omega
    have hvalue : -(n.natAbs : Int) = n := by omega
    simp only [hn, hzero, hle, decide_true, decide_false, Bool.not_true, Bool.or_false,
      Bool.false_eq_true, if_false, hvalue]
  · have hvalue : (n.natAbs : Int) = n := by omega
    simp only [hn, decide_false, Bool.not_false, if_true, hvalue]

end NumberSource

end Json

end OperationGate
