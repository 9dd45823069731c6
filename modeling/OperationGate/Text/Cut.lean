import OperationGate.Text.Blank

/-!
# Cutting texts

Taking a text apart at a separator or at one of its ends. Each function is stated on lists of
characters and lifted to strings.
-/

namespace OperationGate.Text

/-- What follows `front` in `s`, if `s` starts with `front`. -/
def afterFront? (front s : String) : Option String :=
  (front.toList.isPrefixOf? s.toList).map String.ofList

/-- What precedes `tail` in `s`, if `s` ends with `tail`. -/
def beforeTail? (tail s : String) : Option String :=
  (tail.toList.reverse.isPrefixOf? s.toList.reverse).map fun r => String.ofList r.reverse

/-- Removes every copy of `c` at the end of a string. -/
def dropEndChar (c : Char) (s : String) : String :=
  String.ofList (dropEndWhile (· == c) s.toList)

/-- The texts before and after the first `sep`, if there is one. -/
def cutAt? (sep : Char) : List Char → Option (List Char × List Char)
  | [] => none
  | c :: cs =>
    if c = sep then some ([], cs)
    else (cutAt? sep cs).map fun p => (c :: p.1, p.2)

/-- A cut loses nothing but the separator. -/
theorem eq_append_of_cutAt? {sep : Char} {cs a b : List Char} (h : cutAt? sep cs = some (a, b)) :
    cs = a ++ sep :: b := by
  induction cs generalizing a b with
  | nil => simp [cutAt?] at h
  | cons c cs ih =>
    by_cases hc : c = sep
    · simp [cutAt?, hc] at h
      simp [← h.1, ← h.2, hc]
    · obtain ⟨a', h', rfl⟩ : ∃ a', cutAt? sep cs = some (a', b) ∧ c :: a' = a := by
        simpa [cutAt?, hc] using h
      simp [ih h']

/-- The parts of a string between the separators; one more than there are separators. -/
def splitAt (sep : Char) (s : String) : List String :=
  (s.toList.splitOn sep).map String.ofList

/-- The first occurrence of `pattern` in a text: what precedes it and what follows it. -/
def cutAtText? (pattern : List Char) : List Char → Option (List Char × List Char)
  | [] => if pattern.isEmpty then some ([], []) else none
  | c :: cs =>
    match pattern.isPrefixOf? (c :: cs) with
    | some rest => some ([], rest)
    | none => (cutAtText? pattern cs).map fun p => (c :: p.1, p.2)

/-- Replaces every copy of one character by another. -/
def replaceChar (old new : Char) (s : String) : String :=
  String.ofList (s.toList.map fun c => if c = old then new else c)

/-- The lines of a text. A line ends with a line feed, which it does not hold, and neither does it
hold a carriage return right before that. A text that ends with a line feed has no line after it. -/
def lines (cs : List Char) : List (List Char) :=
  match cs.splitOn '\n' with
  | [] => []
  | parts =>
    let ended := parts.dropLast.map fun l => if l.getLast? = some '\r' then l.dropLast else l
    match parts.getLast? with
    | none | some [] => ended
    | some last => ended ++ [last]

/-- Joins texts with a separator between neighbours. -/
def joinWith (sep : String) : List String → String
  | [] => ""
  | [s] => s
  | s :: rest => s ++ sep ++ joinWith sep rest

/-- `n` copies of a text, one after the other. -/
def repeated (n : Nat) (s : String) : String :=
  match n with
  | 0 => ""
  | n + 1 => s ++ repeated n s

end OperationGate.Text
