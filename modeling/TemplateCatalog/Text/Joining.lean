import TemplateCatalog.Text.Mark

/-!
# Letters that join

In some scripts a letter takes another form where it is joined to its neighbour. A virama joins the
consonants around it. The characters without a width that join, and that keep apart, make a
difference in such places only.
-/

namespace TemplateCatalog.Text

/-- The letters that are joined to the letter behind them. -/
def joinedBehindSpans : Spans := [
    (1568, 1568), (1574, 1574), (1576, 1576), (1578, 1582), (1587, 1599), (1601, 1607),
    (1609, 1610), (1646, 1647), (1656, 1671), (1690, 1727), (1729, 1730), (1740, 1740),
    (1742, 1742), (1744, 1745), (1786, 1788), (1791, 1791), (1810, 1812), (1818, 1821),
    (1823, 1831), (1833, 1833), (1835, 1835), (1837, 1838), (1870, 1880), (1884, 1898),
    (1901, 1904), (1906, 1906), (1909, 1911), (1914, 1919), (1994, 2026), (2113, 2117),
    (2120, 2120), (2122, 2131), (2133, 2133), (2144, 2144), (2146, 2149), (2152, 2152),
    (2182, 2182), (2185, 2189), (2191, 2191), (2208, 2217), (2223, 2224), (2227, 2232),
    (2234, 2248), (6151, 6151), (6176, 6264), (6279, 6312), (6314, 6314), (43072, 43122),
    (68288, 68292), (68301, 68301), (68307, 68316), (68318, 68320), (68331, 68334), (68480, 68480),
    (68482, 68482), (68486, 68488), (68490, 68491), (68493, 68493), (68496, 68496), (68525, 68526),
    (68864, 68897), (68899, 68899), (69315, 69316), (69318, 69319), (69424, 69426), (69428, 69444),
    (69457, 69459), (69488, 69491), (69494, 69505), (69552, 69552), (69554, 69555), (69560, 69560),
    (69563, 69564), (69566, 69567), (69569, 69569), (69572, 69572), (69578, 69579),
    (125184, 125251)]

/-- The letters that are joined to the letter before them. -/
def joinedBeforeSpans : Spans := [
    (1568, 1568), (1570, 1599), (1601, 1610), (1646, 1647), (1649, 1651), (1653, 1747),
    (1749, 1749), (1774, 1775), (1786, 1788), (1791, 1791), (1808, 1808), (1810, 1839),
    (1869, 1919), (1994, 2026), (2112, 2136), (2144, 2144), (2146, 2149), (2151, 2154),
    (2160, 2178), (2182, 2182), (2185, 2191), (2208, 2220), (2222, 2248), (6151, 6151),
    (6176, 6264), (6279, 6312), (6314, 6314), (43072, 43121), (68288, 68293), (68295, 68295),
    (68297, 68298), (68302, 68310), (68312, 68321), (68324, 68324), (68331, 68335), (68480, 68497),
    (68521, 68526), (68865, 68899), (69314, 69316), (69318, 69319), (69424, 69444), (69457, 69460),
    (69488, 69505), (69552, 69552), (69554, 69558), (69560, 69567), (69569, 69572), (69577, 69578),
    (125184, 125251)]

/-- The marks that join consonants. -/
def viramaSpans : Spans := [
    (2381, 2381), (2509, 2509), (2637, 2637), (2765, 2765), (2893, 2893), (3021, 3021),
    (3149, 3149), (3277, 3277), (3387, 3388), (3405, 3405), (3530, 3530), (3642, 3642),
    (3770, 3770), (3972, 3972), (4153, 4154), (5908, 5909), (5940, 5940), (6098, 6098),
    (6752, 6752), (6980, 6980), (7082, 7083), (7154, 7155), (11647, 11647), (43014, 43014),
    (43052, 43052), (43204, 43204), (43347, 43347), (43456, 43456), (43766, 43766), (44013, 44013),
    (68159, 68159), (69702, 69702), (69744, 69744), (69759, 69759), (69817, 69817), (69939, 69940),
    (70080, 70080), (70197, 70197), (70378, 70378), (70477, 70477), (70722, 70722), (70850, 70850),
    (71103, 71103), (71231, 71231), (71350, 71350), (71467, 71467), (71737, 71737), (71997, 71998),
    (72160, 72160), (72244, 72244), (72263, 72263), (72345, 72345), (72767, 72767), (73028, 73029),
    (73111, 73111), (73537, 73538)]

/-- The mark joins the consonants around it. -/
def isVirama (c : Char) : Bool :=
  inSpans viramaSpans c

/-- The first of the characters that is not a mark lies in the spans. -/
def reaches (spans : Spans) (cs : List Char) : Bool :=
  (cs.dropWhile isMark).head?.any (inSpans spans)

/-- The character that joins without a width. -/
def zeroWidthJoiner : Char :=
  Char.ofNat 0x200D

/-- The character that keeps apart without a width. -/
def zeroWidthNonJoiner : Char :=
  Char.ofNat 0x200C

/-- Every character without a width stands where it makes a difference: a joiner behind a virama,
and one that keeps apart behind a virama or between letters that would be joined. The characters
before are given from the last one on. -/
def joinersFit (before : List Char) : List Char → Bool
  | [] => true
  | c :: rest =>
    let behindVirama := before.head?.any isVirama
    let fits :=
      if c = zeroWidthJoiner then behindVirama
      else if c = zeroWidthNonJoiner then
        behindVirama || (reaches joinedBehindSpans before && reaches joinedBeforeSpans rest)
      else true
    fits && joinersFit (c :: before) rest

end TemplateCatalog.Text
