import OperationGate.Text.Letter
import OperationGate.Text.LetterCase

/-!
# Words of a name

A name such as `getUserById`, `GET_USER` or `get-user` is split into words, and its Pascal-case form
writes each word with a capital first letter. Words end where a character is no letter or digit,
where a capital follows a lower-case letter (or digits that follow one), and before the last capital
of a run that a lower-case letter follows.
-/

namespace OperationGate.Text

/-- The case of the word so far: that of its last letter, which digits do not change. -/
inductive CaseMode where
  | start
  | lower
  | upper
  deriving DecidableEq, Repr

/-- The case mode after a character that starts no new word. -/
def CaseMode.next (mode : CaseMode) (c : Char) : CaseMode :=
  if isLowercase c then .lower else if isUppercase c then .upper else mode

/-- Splits a text of letters and digits into words; `word` holds the characters of the current word,
last first. -/
def caseWords (word : List Char) (mode : CaseMode) : List Char → List (List Char)
  | [] => []
  | [c] => [(c :: word).reverse]
  | c :: d :: rest =>
    if mode.next c = .lower && isUppercase d then
      (c :: word).reverse :: caseWords [] .start (d :: rest)
    else if mode = .upper && isUppercase c && isLowercase d then
      word.reverse :: caseWords [c] .start (d :: rest)
    else
      caseWords (c :: word) (mode.next c) (d :: rest)

/-- The words of a name. -/
def words (name : List Char) : List (List Char) :=
  (name.splitOnP fun c => !isAlphanumeric c).flatMap (caseWords [] .start)

/-- A word in lower case; a capital sigma at its end becomes a final sigma. -/
def lowercaseWord : List Char → List Char
  | [] => []
  | ['Σ'] => ['ς']
  | c :: rest => lowercase c ++ lowercaseWord rest

/-- A word with its first character in upper case and the others in lower case. -/
def capitalized : List Char → List Char
  | [] => []
  | c :: rest => uppercase c ++ lowercaseWord rest

/-- The Pascal-case form of a name: its words, capitalised, without separators. -/
def pascalCase (name : String) : String :=
  String.ofList ((words name.toList).flatMap capitalized)

end OperationGate.Text
