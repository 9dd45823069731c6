import OperationGate.Text.Mark

/-!
# Directions

The direction in which a character is written (`Bidi_Class`), as far as labels of domains ask for
it. Characters that are in no domain are not told apart.
-/

namespace OperationGate.Text

/-- The direction of a character. -/
inductive Direction where
  | left
  | right
  /-- A digit that goes with either direction. -/
  | digit
  /-- An Arabic digit. -/
  | arabicDigit
  /-- The direction is that of what stands around. -/
  | neutral
  /-- A mark, which goes with the character before it. -/
  | mark
  deriving DecidableEq, Repr, Inhabited

namespace Direction

/-- The ranges of code points, first and last, of characters written from right to left. -/
def rightRanges : List (Nat × Nat) :=
  [
   (1470, 1524), (1544, 1544), (1547, 1547), (1549, 1549), (1563, 1610), (1645, 1749), (1765, 1766),
   (1774, 1775), (1786, 2037), (2042, 2249), (64434, 64450), (65139, 65139), (67584, 67867),
   (67872, 68405), (68416, 68899), (68938, 68943), (68975, 69007), (69248, 69319), (69376, 69622),
   (124928, 126269)]

/-- The ranges of code points, first and last, of digits beyond ASCII that go with either
direction. -/
def digitRanges : List (Nat × Nat) :=
  [
   (1776, 1785), (66273, 66299)]

/-- The ranges of code points, first and last, of Arabic digits. -/
def arabicDigitRanges : List (Nat × Nat) :=
  [
   (1632, 1641), (1643, 1644), (68912, 68937), (69216, 69246)]

/-- The ranges of code points, first and last, of characters beyond ASCII without a direction of
their own. -/
def neutralRanges : List (Nat × Nat) :=
  [
   (161, 215), (247, 247), (697, 698), (706, 719), (722, 749), (751, 767), (885, 885), (1014, 1014),
   (1418, 1423), (1542, 1543), (1545, 1546), (1548, 1548), (1550, 1551), (1642, 1642), (1758, 1758),
   (1769, 1769), (2038, 2041), (2546, 2547), (2555, 2555), (2801, 2801), (3059, 3066), (3192, 3198),
   (3647, 3647), (3898, 3901), (5008, 5017), (5120, 5120), (5787, 5788), (6107, 6107), (6128, 6154),
   (6464, 6469), (6622, 6655), (8204, 8525), (8586, 9013), (9083, 9108), (9110, 9899),
   (9901, 10239), (10496, 11263), (11493, 11498), (11513, 11519), (11776, 12292), (12296, 12320),
   (12336, 12336), (12343, 12343), (12349, 12351), (12448, 12448), (12539, 12539), (12736, 12773),
   (19904, 19967), (42128, 42182), (42509, 42511), (42611, 42623), (42752, 42785), (42888, 42888),
   (43048, 43051), (43064, 43065), (43124, 43127), (43882, 43883), (64451, 65094), (65793, 65793),
   (65856, 65932), (65936, 65952), (67871, 67871), (68409, 68415), (68974, 68974), (69328, 69336),
   (69714, 69733), (71264, 71276), (73685, 73713), (94178, 94178), (117760, 118512),
   (119273, 119365), (119552, 119638), (123647, 123647), (126704, 127279), (127341, 127343),
   (127405, 127405), (127584, 130042)]

/-- Marks without a width that are written from left to right like letters. -/
def leftMarks : List Nat :=
  [3263, 3270, 72199, 72200, 72767]

/-- The direction of a character. -/
def ofChar (c : Char) : Direction :=
  let within (ranges : List (Nat × Nat)) := ranges.any fun r => r.1 ≤ c.toNat && c.toNat ≤ r.2
  if c.toNat < 128 then if c.isDigit then digit else if c.isAlpha then left else neutral
  else if isNonspacing c then if leftMarks.contains c.toNat then left else mark
  else if within rightRanges then right
  else if within digitRanges then digit
  else if within arabicDigitRanges then arabicDigit
  else if within neutralRanges then neutral
  else left

end Direction

end OperationGate.Text
