import OperationGate.Text.Composite
import OperationGate.Text.Place

/-!
# Normal texts

The one form of a text that can be written in several ways (`Normalization_Form_C`): characters are
taken apart, marks are put in the order of their places, and a character is put together with a mark
wherever one character stands for both. Korean syllables are counted through instead of listed.

Main statement: `normal_of_ascii`, by which a text in ASCII is in its normal form.
-/

namespace OperationGate.Text

namespace Normal

/-! ## Syllables -/

/-- The first syllable. Syllables are listed by their first letters, then by their vowels, of which
there are 21, then by their last letters, of which there are 27, or none. -/
def firstSyllable : Nat := 44032

/-- The code point after the last syllable. -/
def endOfSyllables : Nat := 55204

/-- The first of the letters that start syllables. -/
def firstLead : Nat := 4352

/-- The first of the vowels of syllables. -/
def firstVowel : Nat := 4449

/-- The code point before the letters that end syllables. -/
def noTail : Nat := 4519

/-- The number of the last letter of a syllable; zero if there is none. -/
def tailNumber (n : Nat) : Nat :=
  (n - firstSyllable) % 28

/-- The syllable without its last letter, and the last letter, of a syllable that has one. -/
def tailOf? (n : Nat) : Option (Nat × Nat) :=
  if tailNumber n = 0 then none else some (n - tailNumber n, noTail + tailNumber n)

/-- The first letter and the vowel of a syllable without a last letter. -/
def openLetters (n : Nat) : Nat × Nat :=
  let i := (n - firstSyllable) / 28
  (firstLead + i / 21, firstVowel + i % 21)

/-- The letters of a syllable. -/
def letters (n : Nat) : List Nat :=
  match tailOf? n with
  | none => [(openLetters n).1, (openLetters n).2]
  | some (m, tail) => [(openLetters m).1, (openLetters m).2, tail]

/-- A code point is a syllable. -/
def IsSyllable (n : Nat) : Prop :=
  firstSyllable ≤ n ∧ n < endOfSyllables

instance (n : Nat) : Decidable (IsSyllable n) :=
  inferInstanceAs (Decidable (_ ∧ _))

/-- The syllable that a first letter and a vowel make, or a syllable and a last letter. -/
def syllable? (a b : Nat) : Option Nat :=
  if firstLead ≤ a ∧ a < firstLead + 19 ∧ firstVowel ≤ b ∧ b < firstVowel + 21 then
    some (firstSyllable + ((a - firstLead) * 21 + (b - firstVowel)) * 28)
  else if IsSyllable a ∧ tailOf? a = none ∧ noTail < b ∧ b ≤ noTail + 27 then
    some (a + (b - noTail))
  else none

/-! ## Taking apart -/

/-- No character is taken apart, and its parts in their turn, more than so often. -/
def maxDepth : Nat := 4

/-- The first code point of a character that is composed of others. -/
def firstComposed : Nat := 192

/-- What the tables say that a code point is composed of. -/
def parts? (n : Nat) : Option (List Nat) :=
  (compositeRows.lookup n).or (replacedRows.lookup n)

/-- The characters that a code point is taken apart into. -/
def takeApart : Nat → Nat → List Char
  | 0, n => [Char.ofNat n]
  | depth + 1, n =>
    if n < firstComposed then [Char.ofNat n]
    else if IsSyllable n then (letters n).map Char.ofNat
    else match parts? n with
      | some ns => ns.flatMap (takeApart depth)
      | none => [Char.ofNat n]

theorem takeApart_of_lt {depth n : Nat} (h : n < firstComposed) :
    takeApart depth n = [Char.ofNat n] := by
  cases depth with
  | zero => rw [takeApart]
  | succ depth => rw [takeApart, if_pos h]

/-- Puts a character with its place before others, behind the marks with lower places at their
front. -/
def insertPlaced (c : Char × Nat) : List (Char × Nat) → List (Char × Nat)
  | [] => [c]
  | d :: ds => if d.2 ≠ 0 && d.2 < c.2 then d :: insertPlaced c ds else c :: d :: ds

/-- Characters with their places, marks in the order of their places. -/
def inOrder (cs : List Char) : List (Char × Nat) :=
  (cs.map fun c => (c, place c)).foldr insertPlaced []

theorem insertPlaced_zero (c : Char) (ds : List (Char × Nat)) :
    insertPlaced (c, 0) ds = (c, 0) :: ds := by
  cases ds <;> simp [insertPlaced]

/-- Characters that are no marks stay in their order. -/
theorem inOrder_of_place_eq_zero {cs : List Char} (h : ∀ c ∈ cs, place c = 0) :
    inOrder cs = cs.map fun c => (c, 0) := by
  induction cs with
  | nil => rfl
  | cons c cs ih =>
    have hcs := ih fun d hd => h d (List.mem_cons_of_mem _ hd)
    unfold inOrder at hcs ⊢
    rw [List.map_cons, List.foldr_cons, hcs, h c List.mem_cons_self,
      insertPlaced_zero, List.map_cons]

/-! ## Putting together -/

/-- The first code point of a character that is put together with one before it. -/
def firstJoined : Nat := 768

/-- The character that stands for two in a row. -/
def together? (a b : Char) : Option Char :=
  if b.toNat < firstJoined then none
  else match syllable? a.toNat b.toNat with
  | some n => some (Char.ofNat n)
  | none => (compositeRows.find? fun r => r.2 = [a.toNat, b.toNat]).map fun r => Char.ofNat r.1

/-- Puts characters together with one that stands before them. `kept` are the marks after it that
stay, the last one first; a mark reaches it only past marks at lower places. -/
def compose (start : Char) (kept : List (Char × Nat)) : List (Char × Nat) → List Char
  | [] => start :: (kept.map (·.1)).reverse
  | c :: cs =>
    match if kept.all (·.2 < c.2) then together? start c.1 else none with
    | some d => compose d kept cs
    | none =>
      if c.2 = 0 then start :: (kept.map (·.1)).reverse ++ compose c.1 [] cs
      else compose start (c :: kept) cs

/-- Nothing is put together with a character before the first that is. -/
theorem compose_of_lt {start : Char} {cs : List Char} (h : ∀ c ∈ cs, c.toNat < firstJoined) :
    compose start [] (cs.map fun c => (c, 0)) = start :: cs := by
  induction cs generalizing start with
  | nil => rfl
  | cons c cs ih =>
    have hc : together? start c = none := by
      rw [together?, if_pos (h c List.mem_cons_self)]
    rw [List.map_cons, compose]
    simp [hc, ih fun d hd => h d (List.mem_cons_of_mem _ hd)]

/-- Puts characters together, after marks that have nothing to stand on. -/
def composeAll : List (Char × Nat) → List Char
  | [] => []
  | c :: cs => if c.2 = 0 then compose c.1 [] cs else c.1 :: composeAll cs

end Normal

/-- The normal form of a text. -/
def normal (cs : List Char) : List Char :=
  Normal.composeAll (Normal.inOrder (cs.flatMap fun c => Normal.takeApart Normal.maxDepth c.toNat))

/-- A text in ASCII is in its normal form. -/
theorem normal_of_ascii {cs : List Char} (h : ∀ c ∈ cs, c.toNat < 128) : normal cs = cs := by
  have hapart : (cs.flatMap fun c => Normal.takeApart Normal.maxDepth c.toNat) = cs := by
    induction cs with
    | nil => rfl
    | cons c cs ih =>
      have hc : c.toNat < Normal.firstComposed := Nat.lt_trans (h c List.mem_cons_self) (by decide)
      rw [List.flatMap_cons,
        Normal.takeApart_of_lt hc, ih fun d hd => h d (List.mem_cons_of_mem _ hd)]
      simp
  have hplace : ∀ c ∈ cs, place c = 0 := fun c hc => by
    rw [place, if_pos (h c hc)]
  rw [normal, hapart, Normal.inOrder_of_place_eq_zero hplace]
  cases cs with
  | nil => rfl
  | cons c cs =>
    exact Normal.compose_of_lt fun d hd =>
      Nat.lt_trans (h d (List.mem_cons_of_mem _ hd)) (by decide)

end OperationGate.Text
