import Mathlib.Tactic.Lemma
import OperationGate.Text.Utf8

/-!
# Texts as bytes and back

The bytes of a text are read as that text, whatever bytes follow. One character is at most four
bytes, and what the first of them announces is what the others bring: `readChar_utf8EncodeChar` says
so, and `decode_encode` follows for whole texts.

Characters in ASCII are their own bytes (`encode_cons_of_lt`).
-/

namespace OperationGate.Text

/-- What holds of the ASCII characters one by one holds of each of them. -/
lemma forall_ascii {p : Char → Prop} (h : ∀ n < 128, p (Char.ofNat n)) {c : Char}
    (hc : c.toNat < 128) : p c := by
  have := h c.toNat hc
  rwa [Char.ofNat_toNat] at this

lemma toNat_lt_of_isAlphanum {c : Char} (h : c.isAlphanum) : c.toNat < 128 := by
  have hle : c.val ≤ 'z'.val := by
    have hcases : c.isUpper || c.isLower || c.isDigit := h
    simp only [Bool.or_eq_true] at hcases
    rcases hcases with (hupper | hlower) | hdigit
    · have hupper : c.val ≥ 'A'.val ∧ c.val ≤ 'Z'.val := of_decide_eq_true hupper
      exact UInt32.le_trans hupper.2 (by decide)
    · have hlower : c.val ≥ 'a'.val ∧ c.val ≤ 'z'.val := by
        simpa using (show (_ && _) = true from hlower)
      exact hlower.2
    · have hdigit : c.val ≥ '0'.val ∧ c.val ≤ '9'.val := by
        simpa using (show (_ && _) = true from hdigit)
      exact UInt32.le_trans hdigit.2 (by decide)
  exact Nat.lt_of_le_of_lt (UInt32.le_iff_toNat_le.1 hle) (by decide)

namespace Utf8

lemma toNat_ofNat_of_lt {n : Nat} (h : n < 256) : (UInt8.ofNat n).toNat = n := by
  simp [Nat.mod_eq_of_lt h]

/-! ## Reading one character -/

/-- A byte that follows brings six bits. -/
lemma readRest_cons {count low high code n : Nat} {rest : List UInt8} (hn : n < 256)
    (hlow : low ≤ n) (hhigh : n ≤ high) :
    readRest (count + 1) low high code (UInt8.ofNat n :: rest) =
      readRest count 0x80 0xbf (code * 64 + n % 64) rest := by
  rw [readRest, toNat_ofNat_of_lt hn, if_pos (by simp [hlow, hhigh])]

lemma readRest_zero (low high code : Nat) (bs : List UInt8) :
    readRest 0 low high code bs = (some code, bs) := by
  cases bs <;> rfl

lemma readChar_of_lead {n count low high code : Nat} {bs : List UInt8} (hn : n < 256)
    (hlead : lead? (UInt8.ofNat n) = some (count, low, high, code)) (h : 0x80 ≤ n) :
    readChar (UInt8.ofNat n) bs =
      ((readRest count low high code bs).1.map Char.ofNat,
        (readRest count low high code bs).2) := by
  rw [readChar, toNat_ofNat_of_lt hn, if_neg (by omega), hlead]

lemma lead?_two {n : Nat} (h : 0xc2 ≤ n) (h' : n < 0xe0) :
    lead? (UInt8.ofNat n) = some (1, 0x80, 0xbf, n - 0xc0) := by
  rw [lead?, toNat_ofNat_of_lt (by omega), if_neg (by omega), if_pos h']

lemma lead?_three {n : Nat} (h : 0xe0 ≤ n) (h' : n < 0xf0) :
    lead? (UInt8.ofNat n) =
      some (2, if n = 0xe0 then 0xa0 else 0x80, if n = 0xed then 0x9f else 0xbf, n - 0xe0) := by
  rw [lead?, toNat_ofNat_of_lt (by omega), if_neg (by omega), if_neg (by omega)]
  by_cases h0 : n = 0xe0
  · simp [h0]
  · by_cases hd : n = 0xed
    · simp [hd]
    · rw [if_neg h0, if_neg hd, if_pos h', if_neg h0, if_neg hd]

lemma lead?_four {n : Nat} (h : 0xf0 ≤ n) (h' : n < 0xf5) :
    lead? (UInt8.ofNat n) =
      some (3, if n = 0xf0 then 0x90 else 0x80, if n = 0xf4 then 0x8f else 0xbf, n - 0xf0) := by
  have : n = 0xf0 ∨ n = 0xf1 ∨ n = 0xf2 ∨ n = 0xf3 ∨ n = 0xf4 := by omega
  rcases this with rfl | rfl | rfl | rfl | rfl <;> rfl

/-- The bytes of a character are read as the character, and no byte after them is touched. -/
theorem readChar_utf8EncodeChar (c : Char) (rest : List UInt8) :
    ∃ b bs, String.utf8EncodeChar c = b :: bs ∧ readChar b (bs ++ rest) = (some c, rest) := by
  -- No character is a surrogate, which is why the second byte is within what the first one allows.
  have hv : c.val.toNat < 0xd800 ∨ (0xdfff < c.val.toNat ∧ c.val.toNat < 0x110000) := c.valid
  have hc : Char.ofNat c.val.toNat = c := Char.ofNat_toNat c
  unfold String.utf8EncodeChar
  simp only
  generalize c.val.toNat = v at hv hc
  split
  · refine ⟨_, _, rfl, ?_⟩
    rw [readChar, toNat_ofNat_of_lt (by omega), if_pos (by omega), hc]
    rfl
  · split
    · refine ⟨_, _, rfl, ?_⟩
      rw [readChar_of_lead (by omega) (lead?_two (by omega) (by omega)) (by omega),
        List.cons_append, readRest_cons (by omega) (by omega) (by omega), List.nil_append,
        readRest_zero]
      simp only [Option.map_some]
      rw [show (v / 64 % 32 + 192 - 192) * 64 + (v % 64 + 128) % 64 = v by omega, hc]
    · split
      · refine ⟨_, _, rfl, ?_⟩
        rw [readChar_of_lead (by omega) (lead?_three (by omega) (by omega)) (by omega),
          List.cons_append, readRest_cons (by omega) (by split <;> omega) (by split <;> omega),
          List.cons_append, readRest_cons (by omega) (by omega) (by omega), List.nil_append,
          readRest_zero]
        simp only [Option.map_some]
        rw [show ((v / 4096 % 16 + 224 - 224) * 64 + (v / 64 % 64 + 128) % 64) * 64
          + (v % 64 + 128) % 64 = v by omega, hc]
      · refine ⟨_, _, rfl, ?_⟩
        rw [readChar_of_lead (by omega) (lead?_four (by omega) (by omega)) (by omega),
          List.cons_append, readRest_cons (by omega) (by split <;> omega) (by split <;> omega),
          List.cons_append, readRest_cons (by omega) (by omega) (by omega),
          List.cons_append, readRest_cons (by omega) (by omega) (by omega), List.nil_append,
          readRest_zero]
        simp only [Option.map_some]
        rw [show (((v / 262144 % 8 + 240 - 240) * 64 + (v / 4096 % 64 + 128) % 64) * 64
          + (v / 64 % 64 + 128) % 64) * 64 + (v % 64 + 128) % 64 = v by omega, hc]

/-! ## Whole texts -/

@[simp]
lemma encode_nil : encode [] = [] := rfl

lemma encode_cons (c : Char) (cs : List Char) :
    encode (c :: cs) = String.utf8EncodeChar c ++ encode cs := rfl

lemma encode_append (cs ds : List Char) : encode (cs ++ ds) = encode cs ++ encode ds :=
  List.flatMap_append

lemma read_utf8EncodeChar_append (c : Char) (rest : List UInt8) :
    read (String.utf8EncodeChar c ++ rest) = some c :: read rest := by
  obtain ⟨b, bs, he, hr⟩ := readChar_utf8EncodeChar c rest
  rw [he, List.cons_append, read, hr]

lemma read_encode (cs : List Char) : read (encode cs) = cs.map some := by
  induction cs with
  | nil => simp [read]
  | cons c cs ih => rw [encode_cons, read_utf8EncodeChar_append, ih, List.map_cons]

/-- The bytes of a text are read as the text. -/
@[simp]
theorem decode_encode (cs : List Char) : decode (encode cs) = cs := by
  rw [decode, read_encode, List.map_map]
  exact List.map_id cs

/-! ## ASCII -/

lemma utf8EncodeChar_of_lt {c : Char} (h : c.toNat < 128) :
    String.utf8EncodeChar c = [UInt8.ofNat c.toNat] :=
  if_pos (Nat.le_of_lt_succ h)

theorem encode_cons_of_lt {c : Char} (h : c.toNat < 128) (cs : List Char) :
    encode (c :: cs) = UInt8.ofNat c.toNat :: encode cs := by
  rw [encode_cons, utf8EncodeChar_of_lt h]
  rfl

lemma ofNat_toNat_ne {c d : Char} (hc : c.toNat < 128) (hd : d.toNat < 128) (h : c ≠ d) :
    UInt8.ofNat c.toNat ≠ UInt8.ofNat d.toNat := by
  intro he
  have he := congrArg UInt8.toNat he
  rw [toNat_ofNat_of_lt (by omega), toNat_ofNat_of_lt (by omega)] at he
  exact h (Char.toNat_inj.1 he)

end Utf8

end OperationGate.Text
