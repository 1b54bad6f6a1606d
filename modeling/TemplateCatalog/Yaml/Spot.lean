/-!
# Characters in their places

The text of a YAML stream as a list of characters that know their line and column. The marks that
the scanning rules speak of are the places of the characters that come next, so nothing has to
count along while it scans.

All line breaks but the line and paragraph separators become line feeds, which is what they would
be read as.
-/

namespace TemplateCatalog.Yaml

/-- A character in its place. -/
structure Spot where
  /-- The character. -/
  char : Char
  /-- The number of the line, from zero. -/
  line : Nat
  /-- The number of the character within its line, from zero. -/
  column : Nat
  /-- The number of the character within the text, from zero. -/
  index : Nat

/-- The character may stand in a stream. -/
def isAllowed (c : Char) : Bool :=
  let n := c.toNat
  n == 9 || n == 10 || n == 13 || (0x20 ≤ n && n ≤ 0x7E) || n == 0x85 ||
    (0xA0 ≤ n && n ≤ 0xD7FF) || (0xE000 ≤ n && n ≤ 0xFFFD) || 0x10000 ≤ n

/-- The mark of the byte order, which may stand at the start of a line. -/
def byteOrderMark : Char :=
  Char.ofNat 0xFEFF

/-- A line break that has been normalised. -/
def isBreak (c : Char) : Bool :=
  c == '\n' || c.toNat == 0x2028 || c.toNat == 0x2029

/-- A blank or a tab. -/
def isBlank (c : Char) : Bool :=
  c == ' ' || c == '\t'

/-- A character that a word is made of: a letter, a digit, an underscore or a hyphen. -/
def isWordChar (c : Char) : Bool :=
  c.isAlphanum || c == '_' || c == '-'

/-- The characters with their line breaks normalised. -/
def normaliseBreaks : List Char → List Char
  | '\r' :: '\n' :: cs => '\n' :: normaliseBreaks cs
  | c :: cs => (if c = '\r' ∨ c.toNat = 0x85 then '\n' else c) :: normaliseBreaks cs
  | [] => []

/-- The characters in their places, from a given place on. -/
def locate (line column index : Nat) : List Char → List Spot
  | [] => []
  | c :: cs =>
    ⟨c, line, column, index⟩ ::
      if isBreak c then locate (line + 1) 0 (index + 1) cs
      else locate line (column + 1) (index + 1) cs

/-- The text of a stream as characters in their places, if it may be a stream at all. -/
def spots? (text : String) : Option (List Spot) :=
  if text.toList.all isAllowed then some (locate 0 0 0 (normaliseBreaks text.toList)) else none

/-- The column of the next character, which is the first one at the end of the stream. -/
def columnOf : List Spot → Nat
  | spot :: _ => spot.column
  | [] => 0

/-- The next character. -/
def peek? (spots : List Spot) : Option Char :=
  spots.head?.map Spot.char

/-- The next character is the given one. -/
def startsWith (c : Char) (spots : List Spot) : Bool :=
  peek? spots == some c

/-- The text ends here, or a line does. -/
def atBreak (spots : List Spot) : Bool :=
  (peek? spots).all isBreak

/-- The text ends here, or a blank or a line break comes next. -/
def atBlankOrBreak (spots : List Spot) : Bool :=
  (peek? spots).all fun c => isBlank c || isBreak c

/-- A line starts here with the three characters of a document marker. -/
def atMarker (c : Char) : List Spot → Bool
  | x :: y :: z :: rest =>
    x.column == 0 && x.char == c && y.char == c && z.char == c && atBlankOrBreak rest
  | _ => false

/-- A line starts here with a document marker. -/
def atDocumentMarker (spots : List Spot) : Bool :=
  atMarker '-' spots || atMarker '.' spots

/-- The characters at the start that satisfy a condition, and what is left. -/
def takeChars (p : Char → Bool) (spots : List Spot) : List Char × List Spot :=
  ((spots.takeWhile (p ·.char)).map Spot.char, spots.dropWhile (p ·.char))

/-- What follows the characters at the start that satisfy a condition. -/
def dropChars (p : Char → Bool) (spots : List Spot) : List Spot :=
  spots.dropWhile (p ·.char)

/-- What follows a comment, if one starts here. -/
def dropComment (spots : List Spot) : List Spot :=
  if startsWith '#' spots then dropChars (!isBreak ·) spots else spots

/-- What follows the rest of a line that holds nothing but blanks and a comment. -/
def dropLine? (spots : List Spot) : Option (List Spot) :=
  let rest := dropComment (dropChars isBlank spots)
  if atBreak rest then some (rest.drop 1) else none

end TemplateCatalog.Yaml
