import OperationGate.Text.Direction
import OperationGate.Text.Joining
import OperationGate.Text.Normal
import OperationGate.Url.Domain.Image
import OperationGate.Url.Punycode

/-!
# Labels

The parts of a domain between its dots. A label with characters beyond ASCII is written in ASCII
behind a mark; what is written behind the mark has to be the form of such a label. The characters of
a label have to fit together: a label starts with no mark, letters are parted and joined only where
that shows, and labels in different directions do not run into each other.
-/

namespace OperationGate.Url.Domain

/-! ## Characters that fit together -/

/-- Tells whether the first character of a row satisfies `p`, over those that do not part joined
letters. -/
def reaches (p : Char → Bool) (cs : List Char) : Bool :=
  ((cs.dropWhile Text.isBetweenJoined).head?.map p).getD false

/-- Tells whether a character that parts or joins letters may stand between others; those before it
are given from the last to the first. Both may stand after a consonant without its vowel; besides,
letters may be parted that would join. -/
def mayStand (c : Char) (before after : List Char) : Bool :=
  match before with
  | [] => false
  | b :: _ =>
    Text.place b = Text.viramaPlace
      || (c = parter && reaches Text.joinsOn before && reaches Text.joinsBack after)

/-- Tells whether all characters that part or join letters may stand where they stand. -/
def joinersFit (before : List Char) : List Char → Bool
  | [] => true
  | c :: cs => (!(c = parter || c = joiner) || mayStand c before cs) && joinersFit (c :: before) cs

/-- Tells whether the characters of a label may stand beside labels that are written from right to
left. A label has one direction, that of its first character, and ends in it or in a digit; a label
from right to left holds digits of one sort only. -/
def directionsFit (cs : List Char) : Bool :=
  match cs.map Text.Direction.ofChar with
  | [] => true
  | first :: rest =>
    let back := rest.reverse.dropWhile (· = .mark)
    match first with
    | .left =>
      back.head?.all (fun d => d = .left || d = .digit)
        && back.all fun d => d ≠ .right && d ≠ .arabicDigit
    | .right =>
      back.head?.all (fun d => d = .right || d = .digit || d = .arabicDigit)
        && back.all (· ≠ .left)
        && !(back.contains .digit && back.contains .arabicDigit)
    | _ => false

/-- Tells whether some character of a label is written from right to left. -/
def hasRight (cs : List Char) : Bool :=
  cs.any fun c => Text.Direction.ofChar c = .right || Text.Direction.ofChar c = .arabicDigit

/-- The most characters of a label that is not in ASCII. -/
def maxLabelLength : Nat := 1000

/-- The most characters behind the mark of a label. -/
def maxMarkedLength : Nat := 2000

/-- Tells whether characters, not all of which are in ASCII, make a label. -/
def isSound (cs : List Char) : Bool :=
  cs.head?.all (fun c => !Text.isMark c) && joinersFit [] cs && cs.length ≤ maxLabelLength

/-! ## Labels -/

/-- A label. -/
structure Label where
  /-- The label in ASCII. -/
  written : List Char
  /-- The characters of the label. -/
  characters : List Char
  deriving DecidableEq, Repr, Inhabited

namespace Label

/-- The mark before a label that is written in ASCII. -/
def mark : List Char :=
  "xn--".toList

/-- Tells whether all characters are in ASCII. -/
def isAscii (cs : List Char) : Bool :=
  cs.all fun c => c.toNat < 128

/-- Tells whether characters stand for themselves in a domain. -/
def isPlain (cs : List Char) : Bool :=
  cs.all (fun c => image? c = some [c]) && Text.normal cs = cs

/-- The label behind a mark. -/
def ofMarked? (rest : List Char) : Option Label :=
  if isAscii rest && rest.length ≤ maxMarkedLength then
    match Punycode.decode? rest with
    | some cs =>
      if !isAscii cs && isPlain cs && isSound cs then some ⟨mark ++ rest, cs⟩ else none
    | none => none
  else none

/-- The label that characters stand for. -/
def read? (cs : List Char) : Option Label :=
  match mark.isPrefixOf? cs with
  | some rest => ofMarked? rest
  | none =>
    if isAscii cs then some ⟨cs, cs⟩
    else if isSound cs then some ⟨mark ++ Punycode.encode cs, cs⟩
    else none

end Label

end OperationGate.Url.Domain
