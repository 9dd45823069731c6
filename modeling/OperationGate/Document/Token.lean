import OperationGate.Json.Source
import OperationGate.Json.Reader
import OperationGate.Text.Blank
import OperationGate.Text.Cut

/-!
# Tokens of documents

Operation documents and schemas are read as the same tokens. Blanks, commas, byte order marks and
comments separate tokens and are dropped. Strings and numbers are taken as what they mean, so a text
with a meaningless one has no tokens at all.
-/

namespace OperationGate

/-- A token of a document. -/
inductive Token where
  /-- One of the punctuation characters. -/
  | punct (c : Char)
  /-- The three points of a spread. -/
  | spread
  | name (s : String)
  | int (n : Int)
  | float (d : Binary64)
  | text (s : String)
  deriving DecidableEq, Repr, Inhabited

namespace Token

/-- The punctuation characters that are tokens by themselves. -/
def punctuation : List Char :=
  ['!', '$', ':', '=', '@', '|', '&', '(', ')', '[', ']', '\x7b', '\x7d']

/-- Tells whether a character starts a name. -/
def isNameStart (c : Char) : Bool :=
  c.isAlpha || c = '_'

/-- Tells whether a character continues a name. -/
def isNameRest (c : Char) : Bool :=
  c.isAlphanum || c = '_'

/-- Tells whether a character separates tokens. -/
def isGap (c : Char) : Bool :=
  c = ' ' || c = '\t' || c = '\n' || c = '\r' || c = ',' || c = '\ufeff'

/-- Tells whether a character ends a number. Other characters belong to the number and spoil it. -/
def endsNumber (c : Char) : Bool :=
  c = ' ' || c = '\n' || c = '\r' || c = '\t' || c = ',' || c = '#' || punctuation.contains c

/-! ## Numbers -/

/-- Splits off a minus sign. -/
def cutSign : List Char → Bool × List Char
  | '-' :: cs => (true, cs)
  | cs => (false, cs)

/-- Tells whether digits are those of a whole number: a zero, or digits that start with none. -/
def isWhole : List Char → Bool
  | ['0'] => true
  | '0' :: _ => false
  | cs => !cs.isEmpty && cs.all Char.isDigit

/-- Tells whether digits are there. -/
def isDigits (cs : List Char) : Bool :=
  !cs.isEmpty && cs.all Char.isDigit

/-- Cuts a text at the last character that satisfies `p`. -/
def cutAtLast? (p : Char → Bool) (cs : List Char) : Option (List Char × List Char) :=
  let tail := cs.reverse.takeWhile fun c => !p c
  match cs.reverse.dropWhile fun c => !p c with
  | [] => none
  | _ :: front => some (front.reverse, tail.reverse)

/-- The exponent that digits with a sign in front denote. Without a sign the first digit must be one
of `1` to `8`. -/
def exponent? : List Char → Option Int
  | '+' :: cs => if isDigits cs then some (Json.NumberSource.natOf cs) else none
  | '-' :: cs => if isDigits cs then some (-Json.NumberSource.natOf cs) else none
  | c :: cs =>
    if '0' < c && c < '9' && cs.all Char.isDigit then some (Json.NumberSource.natOf (c :: cs))
    else none
  | [] => none

/-- The number that a sign, whole digits, a fraction and an exponent denote, rounded once. -/
def floatOf (negative : Bool) (whole fraction : List Char) (exponent : Int) : Binary64 :=
  Binary64.ofDecimal negative (Json.NumberSource.natOf (whole ++ fraction))
    (exponent - fraction.length)

/-- The token of a text that starts like a number. -/
def ofNumber? (cs : List Char) : Option Token :=
  let (negative, magnitude) := cutSign cs
  let isExponent (c : Char) : Bool := c = 'e' || c = 'E'
  match cutAtLast? isExponent magnitude with
  | some (mantissa, exp) =>
    if exp.contains '.' then none
    else match exponent? exp, cutAtLast? (· == '.') mantissa with
      | some e, some (whole, fraction) =>
        if isWhole whole && isDigits fraction then some (.float (floatOf negative whole fraction e))
        else none
      | some e, none =>
        if isWhole mantissa then some (.float (floatOf negative mantissa [] e)) else none
      | none, _ => none
  | none =>
    match cutAtLast? (· == '.') magnitude with
    | some (whole, fraction) =>
      if isWhole whole && isDigits fraction then some (.float (floatOf negative whole fraction 0))
      else none
    | none =>
      if isWhole magnitude then
        let n : Int := Json.NumberSource.natOf magnitude
        let n := if negative then -n else n
        if Json.NumberSource.isWord n then some (.int n) else none
      else none

/-! ## Strings -/

/-- The characters of a string up to its closing quote, escapes kept, and what follows. -/
def rawString (escaped : Bool) : List Char → Option (List Char × List Char)
  | [] => none
  | c :: cs =>
    if c = '"' && !escaped then some ([], cs)
    else if c = '\n' then none
    else (rawString (!escaped && c = '\\') cs).map fun p => (c :: p.1, p.2)

/-- The number of hexadecimal digits, with an optional plus in front. -/
def hexNumber? (cs : List Char) : Option Nat :=
  let digits := match cs with
    | '+' :: rest => rest
    | cs => cs
  if digits.isEmpty then none
  else do
    let ds ← digits.mapM Json.Source.hexDigit?
    return ds.foldl (fun n d => n * 16 + d) 0

/-- The character that an escaped code point denotes; surrogates denote none. -/
def codePoint? (cs : List Char) : Option Char := do
  let n ← hexNumber? cs
  if n.isValidChar then some (Char.ofNat n) else none

/-- The character of a short escape. The `b` escape is a data link escape. -/
def shortEscape? : Char → Option Char
  | '"' => some '"'
  | '\\' => some '\\'
  | '/' => some '/'
  | 'b' => some '\x10'
  | 'f' => some '\x0c'
  | 'n' => some '\n'
  | 'r' => some '\r'
  | 't' => some '\t'
  | _ => none

/-- Resolves the escapes of a string. -/
def unescape? : List Char → Option (List Char)
  | [] => some []
  | '\\' :: 'u' :: a :: b :: c :: d :: rest => do
    let ch ← codePoint? [a, b, c, d]
    let rest ← unescape? rest
    return ch :: rest
  | '\\' :: c :: rest => do
    let ch ← shortEscape? c
    let rest ← unescape? rest
    return ch :: rest
  | ['\\'] => none
  | c :: rest => (unescape? rest).map (c :: ·)

/-- The characters of a block string up to the closing quotes, and what follows. Three quotes right
after a backslash do not close it. -/
def rawBlock (before : Char) : List Char → Option (List Char × List Char)
  | '"' :: '"' :: '"' :: rest =>
    if before = '\\' then (rawBlock '"' rest).map fun p => ('"' :: '"' :: '"' :: p.1, p.2)
    else some ([], rest)
  | c :: rest => (rawBlock c rest).map fun p => (c :: p.1, p.2)
  | [] => none

/-- The indentation of a line in bytes, if it is not blank. -/
def indentation? (line : List Char) : Option Nat :=
  let blank := line.takeWhile Text.isBlank
  if blank.length = line.length then none
  else some ((blank.map Char.utf8Size).foldl (· + ·) 0)

/-- Removes a number of bytes at the front of a line that has as many. -/
def dropBytes : Nat → List Char → List Char
  | 0, cs => cs
  | _, [] => []
  | n, c :: cs => dropBytes (n - c.utf8Size) cs

/-- The number of bytes of a line. -/
def byteLength (cs : List Char) : Nat :=
  (cs.map Char.utf8Size).foldl (· + ·) 0

/-- Puts three quotes for each three quotes after a backslash. -/
def releaseQuotes : List Char → List Char
  | '\\' :: '"' :: '"' :: '"' :: rest => '"' :: '"' :: '"' :: releaseQuotes rest
  | c :: rest => c :: releaseQuotes rest
  | [] => []

/-- The text of a block string: without blank lines at its ends and without the indentation that all
lines but the first share. -/
def blockText (cs : List Char) : List Char :=
  let lines := Text.lines cs
  let isBlankLine (l : List Char) : Bool := (indentation? l).isNone
  let common := ((lines.drop 1).filterMap indentation?).min?
  let cut (l : List Char) : List Char := match common with
    | some n => if n ≤ byteLength l then dropBytes n l else l
    | none => l
  let dedented := match lines with
    | [] => []
    | first :: rest => first :: rest.map cut
  -- Lines are kept or dropped by what they were before.
  let marked := dedented.zip (lines.map isBlankLine)
  let kept := ((marked.dropWhile (·.2)).reverse.dropWhile (·.2)).reverse
  ['\n'].intercalate (kept.map fun l => releaseQuotes l.1)

/-! ## Reading tokens -/

theorem length_of_rawString {e : Bool} {cs s r : List Char} (h : rawString e cs = some (s, r)) :
    r.length < cs.length := by
  fun_induction rawString e cs generalizing s <;>
    simp_all only [List.length_cons, Option.some.injEq, Prod.mk.injEq, reduceCtorEq,
      Option.map_eq_some_iff] <;> grind

theorem length_of_rawBlock {b : Char} {cs s r : List Char} (h : rawBlock b cs = some (s, r)) :
    r.length < cs.length := by
  fun_induction rawBlock b cs generalizing s <;>
    simp_all only [List.length_cons, Option.some.injEq, Prod.mk.injEq, reduceCtorEq,
      Option.map_eq_some_iff] <;> grind

/-- Reads the tokens of a text. -/
def lex (cs : List Char) : Option (List Token) :=
  match cs with
  | [] => some []
  | '#' :: rest => lex (rest.dropWhile fun c => c ≠ '\n' && c ≠ '\r')
  | '.' :: '.' :: '.' :: rest => (lex rest).map (.spread :: ·)
  | '"' :: '"' :: '"' :: rest =>
    match _h : rawBlock ' ' rest with
    | some (s, after) => (lex after).map (.text (String.ofList (blockText s)) :: ·)
    | none => none
  | '"' :: rest =>
    match _h : rawString false rest with
    | some (s, after) =>
      match unescape? s with
      | some s => (lex after).map (.text (String.ofList s) :: ·)
      | none => none
    | none => none
  | c :: rest =>
    if isGap c then lex rest
    else if punctuation.contains c then (lex rest).map (.punct c :: ·)
    else if isNameStart c then
      (lex (rest.dropWhile isNameRest)).map
        (.name (String.ofList (c :: rest.takeWhile isNameRest)) :: ·)
    else if c.isDigit || c = '-' then
      match ofNumber? (c :: rest.takeWhile fun d => !endsNumber d) with
      | some t => (lex (rest.dropWhile fun d => !endsNumber d)).map (t :: ·)
      | none => none
    else none
termination_by cs.length
decreasing_by
  all_goals simp only [List.length_cons]
  all_goals first
    | omega
    | have shorter := length_of_rawBlock _h
      omega
    | have shorter := length_of_rawString _h
      omega
    | exact Nat.lt_succ_of_le (List.dropWhile_sublist _).length_le

/-- The number of brackets that may be open at once. -/
def maxNesting : Nat := 50

/-- Tells whether tokens open at most as many brackets as are free; a closing bracket frees one. -/
def nestsWithin (free : Nat) : List Token → Bool
  | [] => true
  | .punct c :: rest =>
    if c = '(' || c = '[' || c = '\x7b' then
      match free with
      | 0 => false
      | free + 1 => nestsWithin free rest
    else if c = ')' || c = ']' || c = '\x7d' then nestsWithin (free + 1) rest
    else nestsWithin free rest
  | _ :: rest => nestsWithin free rest

/-- The tokens of a text that does not nest too deeply. -/
def ofText? (s : String) : Option (List Token) := do
  let ts ← lex s.toList
  if nestsWithin maxNesting ts then some ts else none

end Token

end OperationGate
