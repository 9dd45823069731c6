import OperationGate.Url.Domain.Label
import OperationGate.Url.Percent

/-!
# Domains

The domain of a web address. It is read without regard to case and to the way in which characters
are written, and it is given in ASCII.
-/

namespace OperationGate.Url.Domain

/-- Tells whether an ASCII character may be in a domain. -/
def isAllowed (c : Char) : Bool :=
  Percent.isPrintable c && !" %#/:<>?@[\\]^|".toList.contains c

/-- The characters that the characters of a text stand for in a domain. -/
def meaning? (cs : List Char) : Option (List Char) := do
  let images ← cs.mapM image?
  let meant := Text.normal images.flatten
  if meant.any fun c => c.toNat < 128 && !isAllowed c then none else some meant

/-- Tells whether labels may stand side by side: where one holds characters that are written from
right to left, the directions in each have to fit. -/
def standTogether (labels : List Label) : Bool :=
  !(labels.any fun l => hasRight l.characters) || labels.all fun l => directionsFit l.characters

/-- The domain that a text stands for. -/
def read? (cs : List Char) : Option (List Char) := do
  let meant ← meaning? (Text.Utf8.decode (Percent.decode (Text.Utf8.encode cs)))
  let labels ← (meant.splitOn '.').mapM Label.read?
  if standTogether labels then return ((labels.map (·.written)).intersperse ['.']).flatten
  else none

end OperationGate.Url.Domain
