import TemplateCatalog.Text.Mark

/-!
# Directions of writing

Whether a character is written from left to right or from right to left. Numbers are written from
left to right within either, and most signs go along with what stands around them.

Main statement: `Direction.ofCharacter_of_isAlpha`, the letters of ASCII are written from left to
right.
-/

namespace TemplateCatalog.Text

/-- The way in which a character is written. -/
inductive Direction where
  /-- From left to right. -/
  | rightward
  /-- From right to left. -/
  | leftward
  /-- A digit that is used in either direction. -/
  | digit
  /-- A digit of the Arabic script. -/
  | arabicDigit
  /-- A mark, which goes along with the character that it is put on. -/
  | mark
  /-- A sign, which goes along with the characters around it. -/
  | neutral
  deriving DecidableEq, Repr

/-- The characters that are written from right to left. Marks may lie between them. -/
def leftwardSpans : Spans := [
    (1470, 1524), (1544, 1544), (1547, 1547), (1549, 1549), (1563, 1610), (1645, 1749),
    (1765, 1766), (1774, 1775), (1786, 2037), (2042, 2249), (8501, 8504), (64285, 64296),
    (64298, 64829), (64848, 64974), (65008, 65020), (65137, 65276), (67584, 67867), (67872, 68405),
    (68416, 68899), (68928, 69007), (69248, 69622), (124928, 126651)]

/-- The digits of the Arabic script and the signs between them. -/
def arabicDigitSpans : Spans := [
    (1632, 1641), (1643, 1644), (68912, 68921), (69216, 69246)]

/-- The digits beyond ASCII that are used in either direction. -/
def commonDigitSpans : Spans := [
    (188, 190), (1776, 1785), (8528, 8543), (8585, 8585), (9321, 9331), (12881, 12895),
    (12977, 13003), (13144, 13168), (13280, 13310), (66273, 66299), (127233, 127242)]

/-- The signs beyond ASCII. Marks may lie between them. -/
def signSpans : Spans := [
    (161, 177), (182, 187), (191, 191), (215, 215), (247, 247), (697, 698), (706, 719), (722, 735),
    (741, 749), (751, 767), (884, 885), (903, 903), (1014, 1014), (1418, 1423), (1542, 1543),
    (1545, 1546), (1548, 1548), (1550, 1551), (1642, 1642), (1758, 1758), (1769, 1769),
    (2038, 2041), (2546, 2547), (2555, 2555), (2801, 2801), (3059, 3066), (3192, 3198),
    (3647, 3647), (3898, 3901), (5008, 5017), (5120, 5120), (5787, 5788), (6107, 6107),
    (6128, 6154), (6464, 6469), (6622, 6655), (8204, 8331), (8352, 8359), (8361, 8452),
    (8456, 8457), (8468, 8468), (8471, 8479), (8483, 8485), (8487, 8489), (8494, 8494),
    (8506, 8506), (8512, 8525), (8586, 9013), (9083, 9108), (9110, 9254), (9280, 9290),
    (9332, 9899), (9901, 10239), (10496, 11157), (11159, 11263), (11493, 11498), (11513, 11519),
    (11776, 11934), (11936, 12018), (12289, 12292), (12296, 12320), (12336, 12336), (12342, 12343),
    (12349, 12351), (12448, 12448), (12539, 12539), (12736, 12771), (12800, 12867), (19904, 19967),
    (42128, 42182), (42509, 42511), (42611, 42623), (42752, 42785), (42888, 42888), (43048, 43051),
    (43064, 43065), (43124, 43127), (43882, 43883), (64830, 64847), (64975, 64975), (65021, 65118),
    (65375, 65381), (65504, 65518), (65793, 65793), (65856, 65932), (65936, 65952), (67871, 67871),
    (68409, 68415), (69714, 69733), (71264, 71276), (73685, 73713), (94178, 94178),
    (119273, 119365), (119552, 119638), (120513, 120513), (120539, 120539), (120571, 120571),
    (120597, 120597), (120629, 120629), (120655, 120655), (120687, 120687), (120713, 120713),
    (120745, 120745), (120771, 120771), (123647, 123647), (126704, 127221), (127243, 127274),
    (127279, 127279), (127341, 127343), (127405, 127405), (127552, 127560), (127584, 128727),
    (128732, 128886), (128891, 129201), (129280, 129619), (129632, 129672), (129680, 129725),
    (129727, 129733), (129742, 129755), (129760, 129768), (129776, 129994)]

/-- The way in which a character is written. -/
def Direction.ofCharacter (c : Char) : Direction :=
  if c.toNat < 0x80 then
    if c.isAlpha then .rightward else if c.isDigit then .digit else .neutral
  else if isMark c then .mark
  else if inSpans arabicDigitSpans c then .arabicDigit
  else if inSpans commonDigitSpans c then .digit
  else if inSpans leftwardSpans c then .leftward
  else if inSpans signSpans c then .neutral
  else .rightward

/-- The letters of ASCII are written from left to right. -/
theorem Direction.ofCharacter_of_isAlpha {c : Char} (ascii : c.toNat < 0x80)
    (alpha : c.isAlpha = true) : ofCharacter c = .rightward := by
  simp [ofCharacter, ascii, alpha]

end TemplateCatalog.Text
