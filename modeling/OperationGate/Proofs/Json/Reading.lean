import OperationGate.Proofs.Json.Numbers
import OperationGate.Proofs.Table
import OperationGate.Proofs.Text.Utf8

/-!
# Data texts, written and read

The compact text of a value is read as it was written: `Source.read?_write`. The reader goes through
a text part by part, and each part has a lemma that says what it finds there; blanks may stand
before every part.

A value is restored by its text (`read?_compact`) if its records ascend, it is not nested too deep,
and each of its numbers is read as it was. Whole numbers always are, doubles are not: the digits of
a double are scaled with a rounding of their own.
-/

namespace OperationGate.Json

open Text

namespace Source

/-! ## What is read at the front of a text -/

/-- A reading finds a value, and leaves the rest. -/
def Reads {α : Type} {cs : List Char} (x : Reading α cs) (a : α) (rest : List Char) : Prop :=
  x.map Subtype.val = some (a, rest)

variable {cs rest r : List Char}

lemma Reads.exists_eq {α : Type} {x : Reading α cs} {a : α} (h : Reads x a rest) :
    ∃ hr, x = some ⟨(a, rest), hr⟩ := by
  obtain ⟨⟨p, hp⟩, hx, rfl⟩ := Option.map_eq_some_iff.1 h
  exact ⟨hp, hx⟩

lemma readValue_null (h : skipGap cs = 'n' :: 'u' :: 'l' :: 'l' :: rest) :
    Reads (readValue cs) .null rest := by
  unfold readValue
  split <;> simp_all [Reads]

lemma readValue_true (h : skipGap cs = 't' :: 'r' :: 'u' :: 'e' :: rest) :
    Reads (readValue cs) (.bool true) rest := by
  unfold readValue
  split <;> simp_all [Reads]

lemma readValue_false (h : skipGap cs = 'f' :: 'a' :: 'l' :: 's' :: 'e' :: rest) :
    Reads (readValue cs) (.bool false) rest := by
  unfold readValue
  split <;> simp_all [Reads]

lemma readValue_text {us : List TextUnit} (h : skipGap cs = '"' :: rest)
    (hu : readUnits rest = some (us, r)) : Reads (readValue cs) (.text us) r := by
  unfold readValue
  split <;> simp_all
  next =>
    subst h
    split <;> simp_all [Reads]

lemma readValue_list {items : List Source} (h : skipGap cs = '[' :: rest)
    (hi : Reads (readItems true rest) items r) : Reads (readValue cs) (.list items) r := by
  obtain ⟨hr, hi⟩ := hi.exists_eq
  unfold readValue
  split <;> simp_all
  next =>
    subst h
    simp [hi, Reads]

lemma readValue_record {members : List (List TextUnit × Source)}
    (h : skipGap cs = '\x7b' :: rest) (hm : Reads (readMembers true rest) members r) :
    Reads (readValue cs) (.record members) r := by
  obtain ⟨hr, hm⟩ := hm.exists_eq
  unfold readValue
  split <;> simp_all
  next =>
    subst h
    simp [hm, Reads]

lemma readValue_number {n : NumberSource} (hn : n.IsSound) (hrest : NumberSource.IsEnd rest)
    (h : skipGap cs = n.write ++ rest) : Reads (readValue cs) (.number n) rest := by
  have hread := readNumber_write hn hrest
  obtain ⟨c, ds, hw, hc⟩ := head_write hn
  have hne : c ≠ 'n' ∧ c ≠ 't' ∧ c ≠ 'f' ∧ c ≠ '"' ∧ c ≠ '[' ∧ c ≠ '\x7b' := by
    rcases hc with rfl | hc
    · decide
    · refine ⟨?_, ?_, ?_, ?_, ?_, ?_⟩ <;> (rintro rfl; revert hc; decide)
  rw [hw, List.cons_append] at h hread
  unfold readValue
  split
  next h' => exact absurd (List.cons.inj (h.symm.trans h')).1 hne.1
  next h' => exact absurd (List.cons.inj (h.symm.trans h')).1 hne.2.1
  next h' => exact absurd (List.cons.inj (h.symm.trans h')).1 hne.2.2.1
  next h' => exact absurd (List.cons.inj (h.symm.trans h')).1 hne.2.2.2.1
  next h' => exact absurd (List.cons.inj (h.symm.trans h')).1 hne.2.2.2.2.1
  next h' => exact absurd (List.cons.inj (h.symm.trans h')).1 hne.2.2.2.2.2
  next =>
    rw [← h] at hread
    split
    next he =>
      rw [hread] at he
      cases he
      rfl
    next he =>
      rw [hread] at he
      cases he

/-- The bracket after no items. -/
lemma readItems_nil (h : skipGap cs = ']' :: rest) : Reads (readItems true cs) [] rest := by
  unfold readItems
  split <;> simp_all [Reads]

lemma readItems_last {first : Bool} {v : Source} (h : (skipGap cs).head? ≠ some ']')
    (hv : Reads (readValue cs) v r) (hr : skipGap r = ']' :: rest) :
    Reads (readItems first cs) [v] rest := by
  obtain ⟨hlt, hv⟩ := hv.exists_eq
  unfold readItems
  split
  next h' => simp [h'] at h
  next =>
    rw [hv]
    dsimp only
    split <;> simp_all [Reads]

lemma readItems_more {first : Bool} {v : Source} {vs : List Source} {r' : List Char}
    (h : (skipGap cs).head? ≠ some ']') (hv : Reads (readValue cs) v r) (hr : skipGap r = ',' :: r')
    (hvs : Reads (readItems false r') vs rest) : Reads (readItems first cs) (v :: vs) rest := by
  obtain ⟨hlt, hv⟩ := hv.exists_eq
  obtain ⟨hlt', hvs⟩ := hvs.exists_eq
  unfold readItems
  split
  next h' => simp [h'] at h
  next =>
    rw [hv]
    dsimp only
    split
    next he => simp [hr] at he
    next he =>
      obtain rfl : r' = _ := (List.cons.inj (hr.symm.trans he)).2
      simp [hvs, Reads]
    next he => exact absurd hr (he _)

/-- The brace after no members. -/
lemma readMembers_nil (h : skipGap cs = '\x7d' :: rest) : Reads (readMembers true cs) [] rest := by
  unfold readMembers
  split <;> simp_all [Reads]

section Member

variable {first : Bool} {k : List TextUnit} {v : Source} {r₁ r₂ r₃ r₄ : List Char}

lemma readMembers_last (h : skipGap cs = '"' :: r₁) (hk : readUnits r₁ = some (k, r₂))
    (hc : skipGap r₂ = ':' :: r₃) (hv : Reads (readValue r₃) v r₄)
    (hr : skipGap r₄ = '\x7d' :: rest) : Reads (readMembers first cs) [(k, v)] rest := by
  obtain ⟨hlt, hv⟩ := hv.exists_eq
  unfold readMembers
  split
  next h' => simp [h] at h'
  next h' =>
    obtain rfl : r₁ = _ := (List.cons.inj (h.symm.trans h')).2
    split
    next he => simp [hk] at he
    next he =>
      cases hk.symm.trans he
      split
      next he =>
        obtain rfl : r₃ = _ := (List.cons.inj (hc.symm.trans he)).2
        rw [hv]
        dsimp only
        split <;> simp_all [Reads]
      next he => exact absurd hc (he _)
  next h' => exact absurd h (h' _)

lemma readMembers_more {members : List (List TextUnit × Source)} {r₅ : List Char}
    (h : skipGap cs = '"' :: r₁) (hk : readUnits r₁ = some (k, r₂)) (hc : skipGap r₂ = ':' :: r₃)
    (hv : Reads (readValue r₃) v r₄) (hr : skipGap r₄ = ',' :: r₅)
    (hm : Reads (readMembers false r₅) members rest) :
    Reads (readMembers first cs) ((k, v) :: members) rest := by
  obtain ⟨hlt, hv⟩ := hv.exists_eq
  obtain ⟨hlt', hm⟩ := hm.exists_eq
  unfold readMembers
  split
  next h' => simp [h] at h'
  next h' =>
    obtain rfl : r₁ = _ := (List.cons.inj (h.symm.trans h')).2
    split
    next he => simp [hk] at he
    next he =>
      cases hk.symm.trans he
      split
      next he =>
        obtain rfl : r₃ = _ := (List.cons.inj (hc.symm.trans he)).2
        rw [hv]
        dsimp only
        split
        next he => simp [hr] at he
        next he =>
          obtain rfl : r₅ = _ := (List.cons.inj (hr.symm.trans he)).2
          simp [hm, Reads]
        next he => exact absurd hr (he _)
      next he => exact absurd hc (he _)
  next h' => exact absurd h (h' _)

end Member

/-! ## Strings -/

end Source

/-- The step of a string that stands for a character: a character, or the unit of a control that has
no short escape. -/
def TextUnit.ofChar (c : Char) : TextUnit :=
  if c.toNat < 32 && !"\x08\t\n\x0c\r".toList.contains c then .unit c.toNat else .char c

namespace Source

lemma readUnits_unit {a b c d : Char} {n : Nat} (h : hex4? a b c d = some n) (rest : List Char) :
    readUnits ('\\' :: 'u' :: a :: b :: c :: d :: rest) =
      (readUnits rest).map fun p => (.unit n :: p.1, p.2) := by
  rw [readUnits, h]
  cases readUnits rest <;> rfl

lemma readUnits_short {c e : Char} (h : shortEscape? c = some e) (rest : List Char) :
    readUnits ('\\' :: c :: rest) = (readUnits rest).map fun p => (.char e :: p.1, p.2) := by
  have hu : c ≠ 'u' := by
    rintro rfl
    cases h
  rw [readUnits, h]
  · cases readUnits rest <;> rfl
  · rintro _ _ _ _ _ rfl
    exact absurd rfl hu

lemma readUnits_char {c : Char} (hquote : c ≠ '"') (hslash : c ≠ '\\') (hc : 32 ≤ c.toNat)
    (rest : List Char) :
    readUnits (c :: rest) = (readUnits rest).map fun p => (.char c :: p.1, p.2) := by
  have hplain : ¬(c.toNat < 32 || c = '\\') = true := by simp [hslash, hc]
  rw [readUnits, if_neg hplain]
  · cases readUnits rest <;> rfl
  · exact hquote
  · exact fun _ _ _ _ _ h => absurd h hslash
  · exact fun _ _ h => absurd h hslash

/-- The escape of a control is the number of its unit, or short. -/
lemma escape_control : ∀ n < 32,
    (escape (Char.ofNat n) = ['\\', 'u', '0', '0', hexDigit (n / 16), hexDigit (n % 16)] ∧
      hex4? '0' '0' (hexDigit (n / 16)) (hexDigit (n % 16)) = some n ∧
      TextUnit.ofChar (Char.ofNat n) = .unit n) ∨
    (escape (Char.ofNat n) = ['\\', (escape (Char.ofNat n)).getD 1 ' '] ∧
      shortEscape? ((escape (Char.ofNat n)).getD 1 ' ') = some (Char.ofNat n) ∧
      TextUnit.ofChar (Char.ofNat n) = .char (Char.ofNat n)) := by
  decide

/-- A character is read from its escape. -/
lemma readUnits_escape (c : Char) (rest : List Char) :
    readUnits (escape c ++ rest) = (readUnits rest).map fun p =>
    (TextUnit.ofChar c :: p.1, p.2) := by
  by_cases hc : c.toNat < 32
  · rcases escape_control c.toNat hc with ⟨he, hn, hu⟩ | ⟨he, hn, hu⟩
    · rw [Char.ofNat_toNat] at he hu
      rw [he, hu]
      exact readUnits_unit hn rest
    · rw [Char.ofNat_toNat] at he hn hu
      rw [he, hu]
      exact readUnits_short hn rest
  · have hunit : TextUnit.ofChar c = .char c := by simp [TextUnit.ofChar, hc]
    rw [hunit]
    by_cases hquote : c = '"'
    · subst hquote
      exact readUnits_short rfl rest
    · by_cases hslash : c = '\\'
      · subst hslash
        exact readUnits_short rfl rest
      · rw [escape, if_neg hquote, if_neg hslash, if_pos (Nat.not_lt.1 hc)]
        exact readUnits_char hquote hslash (Nat.not_lt.1 hc) rest

/-- A text is read from its string. -/
lemma readUnits_writeText (cs rest : List Char) :
    readUnits (cs.flatMap escape ++ '"' :: rest) = some (cs.map TextUnit.ofChar, rest) := by
  induction cs with
  | nil => rw [List.flatMap_nil, List.nil_append, readUnits]; rfl
  | cons c cs ih => rw [List.flatMap_cons, List.append_assoc, readUnits_escape, ih]; rfl

lemma decodeUnits_cons (c : Char) (us : List TextUnit) :
    decodeUnits (TextUnit.ofChar c :: us) = (decodeUnits us).map (c :: ·) := by
  unfold TextUnit.ofChar
  split
  next hc =>
    simp only [Bool.and_eq_true, decide_eq_true_eq] at hc
    have hlow : ∀ n : Nat, 32 ≤ n → ¬n ≤ c.toNat := fun n hn => by omega
    have hchar : Char.ofNat c.toNat = c := Char.ofNat_toNat c
    have h1 : ¬(0xD800 ≤ c.toNat && c.toNat < 0xDC00) = true := by
      simp [hlow 0xD800 (by decide)]
    have h2 : ¬(0xDC00 ≤ c.toNat && c.toNat < 0xE000) = true := by
      simp [hlow 0xDC00 (by decide)]
    have h3 : ¬(0xD800 ≤ c.toNat && c.toNat < 0xE000) = true := by
      simp [hlow 0xD800 (by decide)]
    cases us with
    | nil => simp [decodeUnits, h3, hchar]
    | cons u us =>
      cases u with
      | char d => simp [decodeUnits, h3, hchar]
      | unit b => rw [decodeUnits, if_neg h1, if_neg h2, hchar]
  next => rw [decodeUnits]

/-- The steps of a string stand for the characters that they were made of. -/
lemma decodeUnits_map (cs : List Char) : decodeUnits (cs.map TextUnit.ofChar) = some cs := by
  induction cs with
  | nil => rfl
  | cons c cs ih => rw [List.map_cons, decodeUnits_cons, ih]; rfl

lemma textOf?_map (s : String) : textOf? (s.toList.map TextUnit.ofChar) = some s := by
  rw [textOf?, decodeUnits_map, Option.map_some, String.ofList_toList]

end Source

/-! ## Values -/

/-- What holds of a value if it holds of the values in it holds of every value. -/
@[elab_as_elim]
lemma inductionOn {motive : Json → Prop} (v : Json) (null : motive .null)
    (bool : ∀ b, motive (.bool b)) (number : ∀ n, motive (.number n)) (text : ∀ s, motive (.text s))
    (list : ∀ items, (∀ v ∈ items, motive v) → motive (.list items))
    (record : ∀ members, (∀ m ∈ members, motive m.2) → motive (.record members)) : motive v :=
  Json.rec (motive_1 := motive) (motive_2 := fun items => ∀ v ∈ items, motive v)
    (motive_3 := fun members => ∀ m ∈ members, motive m.2) (motive_4 := fun m => motive m.2)
    null bool number text list record (by simp) (fun _ _ hv hs => List.forall_mem_cons.2 ⟨hv, hs⟩)
    (by simp) (fun _ _ hm hs => List.forall_mem_cons.2 ⟨hm, hs⟩) (fun _ _ h => h) v

/-- Tells that all numbers of a value satisfy a condition. -/
inductive EveryNumber (p : JsonNumber → Prop) : Json → Prop where
  | null : EveryNumber p .null
  | bool (b : Bool) : EveryNumber p (.bool b)
  | number {n : JsonNumber} (h : p n) : EveryNumber p (.number n)
  | text (s : String) : EveryNumber p (.text s)
  | list {items : List Json} (h : ∀ v ∈ items, EveryNumber p v) : EveryNumber p (.list items)
  | record {members : List (String × Json)} (h : ∀ m ∈ members, EveryNumber p m.2) :
    EveryNumber p (.record members)

namespace Source

mutual

/-- A value as its text writes it. -/
def ofJson : Json → Source
  | .null => .null
  | .bool b => .bool b
  | .number n => .number (NumberSource.ofNumber n)
  | .text s => .text (s.toList.map TextUnit.ofChar)
  | .list items => .list (ofItems items)
  | .record members => .record (ofMembers members)

/-- Items as their texts write them. -/
def ofItems : List Json → List Source
  | [] => []
  | v :: rest => ofJson v :: ofItems rest

/-- Members as their texts write them. -/
def ofMembers : List (String × Json) → List (List TextUnit × Source)
  | [] => []
  | (k, v) :: rest => (k.toList.map TextUnit.ofChar, ofJson v) :: ofMembers rest

end

/-- The characters that start the text of a value. -/
def isStart (c : Char) : Bool :=
  "ntf\"[\x7b-".toList.contains c || c.isDigit

lemma isStart_spec {c : Char} (h : isStart c) : isGap c = false ∧ c ≠ ']' := by
  have hc : c.toNat < 128 := by
    simp only [isStart, Bool.or_eq_true, List.contains_iff_mem] at h
    rcases h with h | h
    · have hall : "ntf\"[\x7b-".toList.all (·.toNat < 128) := by decide
      exact of_decide_eq_true (List.all_eq_true.1 hall c h)
    · exact toNat_lt_of_isAlphanum (by simp [Char.isAlphanum, h])
  revert h
  exact forall_ascii (p := fun c => isStart c → isGap c = false ∧ c ≠ ']') (by decide) hc

lemma exists_write_eq {v : Json} (hv : EveryNumber JsonNumber.IsFinite v) :
    ∃ c cs, v.write = c :: cs ∧ isStart c := by
  cases hv with
  | null => exact ⟨_, _, rfl, rfl⟩
  | bool b => cases b <;> exact ⟨_, _, rfl, rfl⟩
  | number hn =>
    obtain ⟨c, cs, hw, hc⟩ := head_write (NumberSource.isSound_ofNumber _)
    rw [NumberSource.write_ofNumber hn] at hw
    refine ⟨c, cs, hw, ?_⟩
    rcases hc with rfl | hc
    · rfl
    · simp [isStart, hc]
  | text s => exact ⟨_, _, rfl, rfl⟩
  | list h => exact ⟨_, _, rfl, rfl⟩
  | record h => exact ⟨_, _, rfl, rfl⟩

lemma skipGap_cons {c : Char} (h : isGap c = false) (cs : List Char) :
    skipGap (c :: cs) = c :: cs := by
  simp [skipGap, h]

lemma head_of_skipGap {v : Json} (hv : EveryNumber JsonNumber.IsFinite v)
    (h : skipGap cs = v.write ++ rest) : (skipGap cs).head? ≠ some ']' := by
  obtain ⟨c, ds, hw, hc⟩ := exists_write_eq hv
  rw [h, hw]
  intro he
  exact (isStart_spec hc).2 (by simpa using he)

lemma isEnd_cons {c : Char} (h : c.isDigit = false ∧ c ≠ '.' ∧ c ≠ 'e' ∧ c ≠ 'E') (cs : List Char) :
    NumberSource.IsEnd (c :: cs) := by
  rintro _ ⟨⟩
  exact h

/-- Tells that a value is read from its text, wherever the text stands. -/
def IsReadBack (v : Json) : Prop :=
  ∀ {cs rest : List Char}, NumberSource.IsEnd rest → skipGap cs = v.write ++ rest →
    Reads (readValue cs) (ofJson v) rest

lemma skipGap_writeItems {items : List Json} (hne : items ≠ [])
    (hitems : ∀ v ∈ items, EveryNumber JsonNumber.IsFinite v) (rest : List Char) :
    skipGap (writeItems items ++ rest) = writeItems items ++ rest := by
  obtain ⟨v, items, rfl⟩ := List.exists_cons_of_ne_nil hne
  obtain ⟨c, ds, hw, hc⟩ := exists_write_eq (hitems v List.mem_cons_self)
  cases items with
  | nil =>
    rw [writeItems, hw]
    exact skipGap_cons (isStart_spec hc).1 _
  | cons w items =>
    rw [writeItems, hw]
    · exact skipGap_cons (isStart_spec hc).1 _
    · simp

lemma readItems_write {items : List Json} (hne : items ≠ [])
    (hitems : ∀ v ∈ items, EveryNumber JsonNumber.IsFinite v) (ih : ∀ v ∈ items, IsReadBack v)
    {first : Bool} {cs rest : List Char} (h : skipGap cs = writeItems items ++ ']' :: rest) :
    Reads (readItems first cs) (ofItems items) rest := by
  induction items generalizing first cs with
  | nil => exact absurd rfl hne
  | cons v items ihs =>
    have hv := hitems v List.mem_cons_self
    cases items with
    | nil =>
      exact readItems_last (head_of_skipGap hv h)
        (ih v List.mem_cons_self (isEnd_cons (by decide) _) h) (skipGap_cons rfl _)
    | cons w items =>
      rw [writeItems, List.append_assoc, List.cons_append] at h
      have hrest : ∀ u ∈ w :: items, u ∈ v :: w :: items := fun u hu => List.mem_cons_of_mem _ hu
      refine readItems_more (head_of_skipGap hv h)
        (ih v List.mem_cons_self (isEnd_cons (by decide) _) h) (skipGap_cons rfl _)
        (ihs (by simp) (fun u hu => hitems u (hrest u hu)) (fun u hu => ih u (hrest u hu)) ?_)
      · exact skipGap_writeItems (by simp) (fun u hu => hitems u (hrest u hu)) _
      · simp

lemma readMembers_write {members : List (String × Json)} (hne : members ≠ [])
    (ih : ∀ m ∈ members, IsReadBack m.2) {first : Bool} {cs rest : List Char}
    (hfinite : ∀ m ∈ members, EveryNumber JsonNumber.IsFinite m.2)
    (h : skipGap cs = writeMembers members ++ '\x7d' :: rest) :
    Reads (readMembers first cs) (ofMembers members) rest := by
  induction members generalizing first cs with
  | nil => exact absurd rfl hne
  | cons m members ihs =>
    obtain ⟨k, v⟩ := m
    have hv := hfinite (k, v) List.mem_cons_self
    have hskip : ∀ rest, skipGap (v.write ++ rest) = v.write ++ rest := by
      obtain ⟨c, ds, hw, hc⟩ := exists_write_eq hv
      rw [hw]
      exact fun _ => skipGap_cons (isStart_spec hc).1 _
    cases members with
    | nil =>
      have hcs : skipGap cs =
          '"' :: (k.toList.flatMap escape ++ '"' :: ':' :: (v.write ++ '\x7d' :: rest)) := by
        rw [h, writeMembers, writeText]
        simp
      exact readMembers_last hcs (readUnits_writeText _ _) (skipGap_cons rfl _)
        (ih _ List.mem_cons_self (isEnd_cons (by decide) _) (hskip _)) (skipGap_cons rfl _)
    | cons w members =>
      have hcs : skipGap cs = '"' :: (k.toList.flatMap escape ++ '"' :: ':' ::
          (v.write ++ ',' :: (writeMembers (w :: members) ++ '\x7d' :: rest))) := by
        rw [h, writeMembers, writeText]
        · simp
        · simp
      have hrest : ∀ u ∈ w :: members, u ∈ (k, v) :: w :: members := fun u hu =>
        List.mem_cons_of_mem _ hu
      refine readMembers_more hcs (readUnits_writeText _ _) (skipGap_cons rfl _)
        (ih _ List.mem_cons_self (isEnd_cons (by decide) _) (hskip _)) (skipGap_cons rfl _)
        (ihs (by simp) (fun u hu => ih u (hrest u hu)) (fun u hu => hfinite u (hrest u hu)) ?_)
      cases members <;> exact skipGap_cons rfl _

/-- A value is read from its text. -/
lemma readValue_write {v : Json} (hv : EveryNumber JsonNumber.IsFinite v) : IsReadBack v := by
  induction v using inductionOn with
  | null => exact fun _ h => readValue_null h
  | bool b =>
    cases b with
    | false => exact fun _ h => readValue_false h
    | true => exact fun _ h => readValue_true h
  | number n =>
    cases hv with
    | number hn =>
      refine fun hend h => readValue_number (NumberSource.isSound_ofNumber n) hend ?_
      rwa [NumberSource.write_ofNumber hn]
  | text s =>
    refine fun _ h => readValue_text (h.trans ?_) (readUnits_writeText s.toList _)
    rw [write, writeText]
    simp
  | list items ih =>
    cases hv with
    | list hitems =>
      intro cs rest _ h
      rw [write, List.cons_append, List.cons_append, List.append_assoc] at h
      refine readValue_list h ?_
      cases items with
      | nil => exact readItems_nil (skipGap_cons rfl _)
      | cons v items =>
        exact readItems_write (by simp) hitems (fun u hu => ih u hu (hitems u hu))
          (skipGap_writeItems (by simp) hitems _)
  | record members ih =>
    cases hv with
    | record hmembers =>
      intro cs rest _ h
      rw [write, List.cons_append, List.cons_append, List.append_assoc] at h
      refine readValue_record h ?_
      cases members with
      | nil => exact readMembers_nil (skipGap_cons rfl _)
      | cons m members =>
        refine readMembers_write (by simp) (fun u hu => ih u hu (hmembers u hu)) hmembers ?_
        cases members <;> exact skipGap_cons rfl _

/-- The compact text of a value is read as the value was written. -/
theorem read?_write {v : Json} (hv : EveryNumber JsonNumber.IsFinite v) :
    read? v.write = some (ofJson v) := by
  have hskip : skipGap v.write = v.write ++ [] := by
    obtain ⟨c, ds, hw, hc⟩ := exists_write_eq hv
    rw [List.append_nil, hw, skipGap_cons (isStart_spec hc).1]
  obtain ⟨hr, hread⟩ := (readValue_write hv (by simp [NumberSource.IsEnd]) hskip).exists_eq
  rw [read?, hread]
  rfl

end Source

/-! ## Values that are restored -/

/-- A value that is nested at most `depth` deep, whose records ascend and whose numbers are read as
they are. -/
inductive IsRestored : Nat → Json → Prop where
  | null (depth : Nat) : IsRestored depth .null
  | bool (depth : Nat) (b : Bool) : IsRestored depth (.bool b)
  | number (depth : Nat) {n : JsonNumber} (h : NumberSource.IsRestored n) :
    IsRestored depth (.number n)
  | text (depth : Nat) (s : String) : IsRestored depth (.text s)
  | list {depth : Nat} {items : List Json} (h : ∀ v ∈ items, IsRestored depth v) :
    IsRestored (depth + 1) (.list items)
  | record {depth : Nat} {members : List (String × Json)}
    (ascending : members.Pairwise fun a b => a.1 < b.1) (h : ∀ m ∈ members, IsRestored depth m.2) :
    IsRestored (depth + 1) (.record members)

lemma IsRestored.everyNumber {depth : Nat} {v : Json} (h : v.IsRestored depth) :
    EveryNumber JsonNumber.IsFinite v := by
  induction h with
  | null => exact .null
  | bool _ b => exact .bool b
  | number _ hn => exact .number hn.1
  | text _ s => exact .text s
  | list _ ih => exact .list ih
  | record _ _ ih => exact .record ih

namespace Source

lemma toItems?_ofItems {depth : Nat} {items : List Json}
    (h : ∀ v ∈ items, toJson? depth (ofJson v) = some v) :
    toItems? depth (ofItems items) = some items := by
  induction items with
  | nil => rw [ofItems, toItems?]
  | cons v items ih =>
    rw [ofItems, toItems?, h v List.mem_cons_self, ih fun u hu => h u (List.mem_cons_of_mem _ hu)]
    rfl

lemma toMembers?_ofMembers {depth : Nat} {members : List (String × Json)}
    (h : ∀ m ∈ members, toJson? depth (ofJson m.2) = some m.2) :
    toMembers? depth (ofMembers members) = some members := by
  induction members with
  | nil => rw [ofMembers, toMembers?]
  | cons m members ih =>
    obtain ⟨k, v⟩ := m
    rw [ofMembers, toMembers?, textOf?_map, h (k, v) List.mem_cons_self,
      ih fun u hu => h u (List.mem_cons_of_mem _ hu)]
    rfl

/-- What was written of a restored value stands for the value. -/
lemma toJson?_ofJson {depth : Nat} {v : Json} (h : v.IsRestored depth) :
    toJson? depth (ofJson v) = some v := by
  induction h with
  | null => rw [ofJson, toJson?]
  | bool => rw [ofJson, toJson?]
  | number _ hn => rw [ofJson, toJson?, hn.2]; rfl
  | text _ s => rw [ofJson, toJson?, textOf?_map]; rfl
  | list _ ih => rw [ofJson, toJson?, toItems?_ofItems ih]; rfl
  | record ascending _ ih =>
    rw [ofJson, toJson?, toMembers?_ofMembers ih, Option.map_some, object,
      Table.entries_ofList ascending]

end Source

/-- What the compact text of a value is read as, be it the value or not. -/
lemma read?_compact_eq {v : Json} (h : EveryNumber JsonNumber.IsFinite v) :
    read? v.compact = (Source.ofJson v).toJson? maxDepth := by
  rw [read?, compact, String.toList_ofList, Source.read?_write h]
  rfl

/-- A restored value is read from its compact text. -/
theorem read?_compact {v : Json} (h : v.IsRestored maxDepth) : read? v.compact = some v := by
  rw [read?_compact_eq h.everyNumber, Source.toJson?_ofJson h]

namespace Source

lemma exists_of_mem_toItems? {depth : Nat} {items : List Source} {vs : List Json}
    (h : toItems? depth items = some vs) {v : Json} (hv : v ∈ vs) :
    ∃ src, toJson? depth src = some v := by
  induction items generalizing vs with
  | nil =>
    rw [toItems?] at h
    cases h
    cases hv
  | cons src items ih =>
    rw [toItems?] at h
    simp only [Option.bind_eq_bind, Option.bind_eq_some_iff, Option.pure_def,
      Option.some.injEq] at h
    obtain ⟨w, hw, rest, hrest, rfl⟩ := h
    rcases List.mem_cons.1 hv with rfl | hv
    · exact ⟨src, hw⟩
    · exact ih hrest hv

lemma exists_of_mem_toMembers? {depth : Nat} {members : List (List TextUnit × Source)}
    {ms : List (String × Json)} (h : toMembers? depth members = some ms) {m : String × Json}
    (hm : m ∈ ms) : ∃ src, toJson? depth src = some m.2 := by
  induction members generalizing ms with
  | nil =>
    rw [toMembers?] at h
    cases h
    cases hm
  | cons member members ih =>
    obtain ⟨k, src⟩ := member
    rw [toMembers?] at h
    simp only [Option.bind_eq_bind, Option.bind_eq_some_iff, Option.pure_def,
      Option.some.injEq] at h
    obtain ⟨name, -, w, hw, rest, hrest, rfl⟩ := h
    rcases List.mem_cons.1 hm with rfl | hm
    · exact ⟨src, hw⟩
    · exact ih hrest hm

/-- A list is read from a list. -/
lemma toJson?_eq_list {depth : Nat} {src : Source} {items : List Json}
    (h : src.toJson? depth = some (.list items)) :
    ∃ d srcs, depth = d + 1 ∧ toItems? d srcs = some items := by
  cases src with
  | list srcs =>
    cases depth with
    | zero => simp [toJson?] at h
    | succ d => exact ⟨d, srcs, rfl, by simpa [toJson?] using h⟩
  | record members => cases depth <;> simp [toJson?, object] at h
  | _ => simp [toJson?] at h

/-- A record is read from a record, as the table of its members. -/
lemma toJson?_eq_record {depth : Nat} {src : Source} {members : List (String × Json)}
    (h : src.toJson? depth = some (.record members)) :
    ∃ d srcs ms, depth = d + 1 ∧ toMembers? d srcs = some ms ∧
      (Table.ofList ms).entries = members := by
  cases src with
  | record srcs =>
    cases depth with
    | zero => simp [toJson?] at h
    | succ d =>
      obtain ⟨ms, hms, hmembers⟩ : ∃ ms, toMembers? d srcs = some ms ∧
          object ms = .record members := by
        simpa [toJson?] using h
      exact ⟨d, srcs, ms, rfl, hms, by simpa [object] using hmembers⟩
  | list items => cases depth <;> simp [toJson?] at h
  | _ => simp [toJson?] at h

end Source

/-- A value that was read is restored if its numbers are: its records ascend, and it is not nested
too deep. -/
lemma isRestored_of_toJson? {v : Json} {depth : Nat} {src : Source} (h : src.toJson? depth = some v)
    (hnumbers : EveryNumber NumberSource.IsRestored v) : v.IsRestored depth := by
  induction v using inductionOn generalizing depth src with
  | null => exact .null depth
  | bool b => exact .bool depth b
  | number n =>
    cases hnumbers with
    | number hn => exact .number depth hn
  | text s => exact .text depth s
  | list items ih =>
    cases hnumbers with
    | list hnumbers =>
      obtain ⟨d, srcs, rfl, hsrcs⟩ := Source.toJson?_eq_list h
      refine .list fun v hv => ?_
      obtain ⟨src, hsrc⟩ := Source.exists_of_mem_toItems? hsrcs hv
      exact ih v hv hsrc (hnumbers v hv)
  | record members ih =>
    cases hnumbers with
    | record hnumbers =>
      obtain ⟨d, srcs, ms, rfl, hsrcs, rfl⟩ := Source.toJson?_eq_record h
      refine .record (Table.ofList ms).ascending fun m hm => ?_
      obtain ⟨src, hsrc⟩ := Source.exists_of_mem_toMembers? hsrcs (Table.mem_of_mem_ofList hm)
      exact ih m hm hsrc (hnumbers m hm)

lemma isRestored_of_read? {v : Json} {s : String} (h : read? s = some v)
    (hnumbers : EveryNumber NumberSource.IsRestored v) : v.IsRestored maxDepth := by
  obtain ⟨src, -, hsrc⟩ := Option.bind_eq_some_iff.1 h
  exact isRestored_of_toJson? hsrc hnumbers

end OperationGate.Json
