import TemplateCatalog.Text.Width.Column

/-!
# Ligatures

Letters that take fewer columns together than each by itself. What a ligature can end with is told
from its last character; which characters may stand before that is for the reader of the text, who
meets them later.

Main statement: `ending_of_ascii`, no ligature ends with an ASCII character.
-/

namespace TemplateCatalog.Text

/-- What the end of a ligature is. -/
inductive Ending where
  /-- An Arabic alef, which a lam can lean on. -/
  | alef
  /-- A Hebrew lamed, which can be joined to an alef. -/
  | lamed
  /-- A Khmer letter that a sign can put below the one before it. -/
  | subscript
  /-- A Buginese ya, which can be joined to a vowel sign. -/
  | ya
  /-- A Buginese ya joined to a vowel sign, which can be joined to an a. -/
  | yaWithVowel
  /-- A Tifinagh consonant. -/
  | consonant
  /-- A Tifinagh consonant behind the mark that joins it. -/
  | joinedConsonant
  /-- A Lisu tone letter, which can follow another one. -/
  | tone
  /-- An Old Turkic i, which can be joined to a consonant. -/
  | turkicI
  /-- A Kirat Rai vowel sign e. -/
  | vowelE
  /-- A Kirat Rai vowel sign ai. -/
  | vowelAi
  deriving DecidableEq, Repr

/-- The Arabic letters of the shape of an alef. -/
def alefSpans : Spans := [
    (0x622, 0x623), (0x625, 0x625), (0x627, 0x627), (0x671, 0x673), (0x675, 0x675),
    (0x773, 0x774), (0x870, 0x882)]

/-- The Arabic letters of the shape of a lam. -/
def lamSpans : Spans := [
    (0x644, 0x644), (0x6B5, 0x6B8), (0x76A, 0x76A), (0x8A6, 0x8A6), (0x8C7, 0x8C7)]

/-- The Khmer letters that can stand below another one. -/
def subscriptSpans : Spans := [
    (0x1780, 0x1782), (0x1784, 0x1787), (0x1789, 0x178C), (0x178E, 0x1793), (0x1795, 0x1798),
    (0x179B, 0x179D), (0x17A0, 0x17A0), (0x17A2, 0x17A2), (0x17A7, 0x17A7), (0x17AB, 0x17AC),
    (0x17AF, 0x17AF)]

/-- The Tifinagh consonants. -/
def consonantSpans : Spans := [
    (0x2D31, 0x2D65), (0x2D6F, 0x2D6F)]

/-- The characters without a column that part the letters on their sides. -/
def partingSpans : Spans := [
    (1541, 1541), (2192, 2193), (2274, 2274), (2494, 2494), (2519, 2519), (2878, 2878),
    (2903, 2903), (3006, 3006), (3031, 3031), (3264, 3264), (3266, 3266), (3271, 3272),
    (3274, 3275), (3285, 3286), (3390, 3390), (3406, 3406), (3415, 3415), (3535, 3535),
    (3551, 3551), (4448, 4607), (6158, 6158), (6965, 6965), (6971, 6971), (6973, 6973),
    (6979, 6980), (7082, 7082), (7154, 7155), (8204, 8205), (8293, 8297), (12334, 12335),
    (12644, 12644), (43258, 43258), (43347, 43347), (43456, 43456), (55216, 55238), (55243, 55291),
    (65438, 65440), (65520, 65528), (70080, 70080), (70197, 70197), (70462, 70462), (70477, 70477),
    (70487, 70487), (70832, 70832), (70845, 70845), (71087, 71087), (71350, 71350), (71984, 71984),
    (71997, 71997), (73537, 73537), (94192, 94193), (119141, 119141), (119150, 119154),
    (917504, 917504), (917506, 917535), (917632, 917759), (918000, 921599)]

/-- The characters without a column that may stand anywhere in a ligature. -/
def ignoredSpans : Spans := [
    (0x34F, 0x34F), (0x17B4, 0x17B5), (0x180B, 0x180D), (0x180F, 0x180F), (0xFE00, 0xFE0F),
    (0xE0100, 0xE01EF)]

/-- Arabic letters are joined across the character. -/
def isTransparent (c : Char) : Bool :=
  charWidth c == 0 && !inSpans partingSpans c

/-- The ligature that a character can end. -/
def Ending.ofCharacter? (c : Char) : Option Ending :=
  if c.toNat < 0x5DC then none
  else if inSpans alefSpans c then some .alef
  else if c.toNat = 0x5DC then some .lamed
  else if inSpans subscriptSpans c then some .subscript
  else if c.toNat = 0x1A10 then some .ya
  else if inSpans consonantSpans c then some .consonant
  else if c.toNat = 0xA4FC ∨ c.toNat = 0xA4FD then some .tone
  else if c.toNat = 0x10C03 then some .turkicI
  else if c.toNat = 0x16D67 then some .vowelE
  else if c.toNat = 0x16D68 then some .vowelAi
  else none

/-- How many columns more a ligature takes with a character in front of what is known to be its
end, and what its end is then, if it goes on at all; `joined` tells of a joiner between them. -/
def Ending.extend? (joined : Bool) (c : Char) (ending : Ending) : Option (Int × Option Ending) :=
  let n := c.toNat
  match ending, joined with
  | .alef, false =>
    if inSpans lamSpans c then some (0, none)
    else if isTransparent c then some (0, some .alef)
    else none
  | .lamed, true => if n = 0x5D0 then some (0, none) else none
  | .subscript, _ => if n = 0x17D2 then some (-1, none) else none
  | .ya, true => if n = 0x1A17 then some (0, some .yaWithVowel) else none
  | .yaWithVowel, _ => if n = 0x1A15 then some (0, none) else none
  | .consonant, joined =>
    if n = 0x2D7F then some (1, some .joinedConsonant)
    else if joined && inSpans consonantSpans c then some (0, none)
    else none
  | .joinedConsonant, _ => if inSpans consonantSpans c then some (-1, none) else none
  | .tone, _ => if 0xA4F8 ≤ n ∧ n ≤ 0xA4FB then some (0, none) else none
  | .turkicI, true => if n = 0x10C32 then some (0, none) else none
  | .vowelE, _ =>
    if n = 0x16D63 ∨ n = 0x16D69 then some (0, none)
    else if n = 0x16D67 then some (0, some .vowelAi)
    else if n = 0x16D68 then some (1, some .vowelE)
    else none
  | .vowelAi, _ => if n = 0x16D63 then some (0, none) else none
  | _, _ => none

/-- No ligature ends with an ASCII character. -/
theorem ending_of_ascii {c : Char} (ascii : c.toNat < 0x80) : Ending.ofCharacter? c = none := by
  rw [Ending.ofCharacter?, if_pos (by omega)]

end TemplateCatalog.Text
