import OperationGate.Text.Cut

/-!
# Punycode

Labels of any characters written in ASCII. The ASCII characters come first; the others follow as
steps of a count over all their values and places, each step a number in base 36 whose digits have
weights that adapt to the steps before.
-/

namespace OperationGate.Url.Punycode

/-- The first value beyond ASCII. -/
def start : Nat := 128

/-- The bias before the first step. -/
def startBias : Nat := 72

/-- The least digit that does not end a number at a place. -/
def threshold (place bias : Nat) : Nat :=
  if place ≤ bias then 1 else min 26 (place - bias)

/-- Halves the bias until a step is small. -/
def settle (step place : Nat) : Nat :=
  if 455 < step then settle (step / 35) (place + 36) else place + 36 * step / (step + 38)
termination_by step
decreasing_by exact Nat.div_lt_self (by omega) (by omega)

/-- The bias after a step that put the last of `count` characters in its place. -/
def adapt (step count : Nat) (first : Bool) : Nat :=
  let step := if first then step / 700 else step / 2
  settle (step + step / count) 0

/-! ## Writing -/

/-- The character of a digit. -/
def digitChar (d : Nat) : Char :=
  Char.ofNat (if d < 26 then 97 + d else 22 + d)

/-- The digits of a number from the given place on. -/
def digits (bias place n : Nat) : List Char :=
  let t := threshold place bias
  if n < t then [digitChar n]
  else digitChar (t + (n - t) % (36 - t)) :: digits bias (place + 36) ((n - t) / (36 - t))
termination_by n
decreasing_by
  have : 1 ≤ threshold place bias := by unfold threshold; split <;> omega
  exact Nat.lt_of_le_of_lt (Nat.div_le_self ..) (by omega)

/-- What is known while the characters beyond ASCII are written. -/
structure State where
  written : List Char
  step : Nat
  bias : Nat
  /-- The number of characters that are in their places. -/
  count : Nat
  deriving DecidableEq, Repr

/-- Passes one character of the label on the way of the value `n`. -/
def State.pass (first n : Nat) (s : State) (c : Char) : State :=
  if c.toNat < n then { s with step := s.step + 1 }
  else if c.toNat = n then
    { written := s.written ++ digits s.bias 36 s.step
      step := 0
      bias := adapt s.step (s.count + 1) (s.count = first)
      count := s.count + 1 }
  else s

/-- Writes the characters of the given values, which ascend; `from` is the value after the last
one. -/
def State.writeAll (label : List Char) (first : Nat) : List Nat → Nat → State → State
  | [], _, s => s
  | n :: ns, last, s =>
    let s := { s with step := s.step + (n - last) * (s.count + 1) }
    let s := label.foldl (pass first n) s
    writeAll label first ns (n + 1) { s with step := s.step + 1 }

/-- A label in ASCII. -/
def encode (label : List Char) : List Char :=
  let basic := label.filter fun c => c.toNat < start
  let values := ((label.map (·.toNat)).filter (start ≤ ·)).eraseDups.mergeSort
  let s : State := ⟨[], 0, startBias, basic.length⟩
  basic ++ (if basic.isEmpty then [] else ['-'])
    ++ (s.writeAll label basic.length values start).written

/-! ## Reading -/

/-- The digit that a character is. -/
def digit? (c : Char) : Option Nat :=
  if 'a' ≤ c && c ≤ 'z' then some (c.toNat - 97)
  else if c.isDigit then some (c.toNat - 22)
  else none

/-- Reads a number and adds it, in units of `weight`, to `n`. -/
def readNumber (bias place weight n : Nat) : List Char → Option (Nat × List Char)
  | [] => none
  | c :: cs =>
    match digit? c with
    | none => none
    | some d =>
      let t := threshold place bias
      let n := n + d * weight
      if d < t then some (n, cs) else readNumber bias (place + 36) (weight * (36 - t)) n cs

theorem length_lt_of_readNumber {bias place weight n : Nat} {cs : List Char} {r : Nat × List Char}
    (h : readNumber bias place weight n cs = some r) : r.2.length < cs.length := by
  induction cs generalizing place weight n with
  | nil => simp [readNumber] at h
  | cons c cs ih =>
    unfold readNumber at h
    split at h
    · cases h
    · dsimp only at h
      split at h
      · cases h
        exact Nat.lt_succ_self _
      · exact Nat.lt_succ_of_lt (ih h)

/-- Puts the characters that steps stand for in their places. -/
def place (bias value index : Nat) (label : List Char) (cs : List Char) : Option (List Char) :=
  match h : readNumber bias 36 1 index cs with
  | none => if cs.isEmpty then some label else none
  | some (reached, rest) =>
    have : rest.length < cs.length := length_lt_of_readNumber h
    let count := label.length + 1
    let value := value + reached / count
    if value.isValidChar then
      place (adapt (reached - index) count (index = 0)) value (reached % count + 1)
        (label.insertIdx (reached % count) (Char.ofNat value)) rest
    else none
termination_by cs.length

/-- The label that a text in ASCII stands for. Before the last hyphen, unless the text starts with
it, stand the ASCII characters. -/
def decode? (cs : List Char) : Option (List Char) :=
  match Text.cutAt? '-' cs.reverse with
  | some (rest, c :: basic) => place startBias start 0 (c :: basic).reverse rest.reverse
  | _ => place startBias start 0 [] cs

end OperationGate.Url.Punycode
