/-!
# Bytes of texts

Texts as bytes and bytes as texts. Bytes that are no text are read as far as they go: each longest
part that could begin a character stands for one replacement character.
-/

namespace OperationGate.Text.Utf8

/-- The bytes of a text. -/
def encode (cs : List Char) : List UInt8 :=
  cs.flatMap String.utf8EncodeChar

/-- The character that stands for bytes that are no text. -/
def replacement : Char := '\ufffd'

/-- What a byte begins: how many bytes follow it, the least and the greatest value of the first of
them, and its own share of the code point. -/
def lead? (b : UInt8) : Option (Nat × Nat × Nat × Nat) :=
  let n := b.toNat
  if n < 0xc2 then none
  else if n < 0xe0 then some (1, 0x80, 0xbf, n - 0xc0)
  else if n = 0xe0 then some (2, 0xa0, 0xbf, 0)
  else if n = 0xed then some (2, 0x80, 0x9f, 0xd)
  else if n < 0xf0 then some (2, 0x80, 0xbf, n - 0xe0)
  else if n = 0xf0 then some (3, 0x90, 0xbf, 0)
  else if n < 0xf4 then some (3, 0x80, 0xbf, n - 0xf0)
  else if n = 0xf4 then some (3, 0x80, 0x8f, 4)
  else none

/-- Reads the bytes that follow a first one: the code point if all are there, and the bytes left
over. -/
def readRest (count low high code : Nat) : List UInt8 → Option Nat × List UInt8
  | [] => (if count = 0 then some code else none, [])
  | b :: rest =>
    match count with
    | 0 => (some code, b :: rest)
    | count + 1 =>
      if low ≤ b.toNat && b.toNat ≤ high then
        readRest count 0x80 0xbf (code * 64 + b.toNat % 64) rest
      else (none, b :: rest)

theorem length_readRest_le (count low high code : Nat) (bs : List UInt8) :
    (readRest count low high code bs).2.length ≤ bs.length := by
  induction bs generalizing count low high code with
  | nil => simp [readRest]
  | cons b rest ih =>
    unfold readRest
    split
    · simp
    · split
      · exact Nat.le_trans (ih ..) (by simp)
      · simp

/-- Reads one character: nothing if the bytes begin none, and the bytes left over. -/
def readChar (b : UInt8) (rest : List UInt8) : Option Char × List UInt8 :=
  if b.toNat < 0x80 then (some (Char.ofNat b.toNat), rest)
  else match lead? b with
    | none => (none, rest)
    | some (count, low, high, code) =>
      let r := readRest count low high code rest
      (r.1.map Char.ofNat, r.2)

theorem length_readChar_le (b : UInt8) (rest : List UInt8) :
    (readChar b rest).2.length ≤ rest.length := by
  unfold readChar
  split
  · simp
  · split
    · simp
    · exact length_readRest_le ..

/-- The characters of bytes, nothing standing for each part that is no text. -/
def read : List UInt8 → List (Option Char)
  | [] => []
  | b :: rest => (readChar b rest).1 :: read (readChar b rest).2
termination_by bs => bs.length
decreasing_by exact Nat.lt_succ_of_le (length_readChar_le b rest)

/-- The text of bytes, as far as they are text. -/
def decode (bs : List UInt8) : List Char :=
  (read bs).map (·.getD replacement)

/-- The text of bytes that are text. -/
def decode? (bs : List UInt8) : Option (List Char) :=
  (read bs).mapM id

end OperationGate.Text.Utf8
