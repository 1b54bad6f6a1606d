import TemplateCatalog.Yaml.Spot

/-!
# Line folding

Scalars that are not literal may run over several lines. The blank space between two of their
words is kept as it is within a line; across lines a single break becomes a blank, and further
breaks are kept.

The texts under construction here hold their last character first.
-/

namespace TemplateCatalog.Yaml

/-- The blank space since the last word of a scalar. -/
structure Gap where
  /-- The blanks on the line of the word, the last one first. -/
  blanks : List Char
  /-- The line of the word has ended. -/
  broken : Bool
  /-- The break that ended the line of the word, unless it was escaped. -/
  first : Option Char
  /-- The breaks after that, the last one first. -/
  others : List Char

namespace Gap

/-- No blank space. -/
def none : Gap :=
  ⟨[], false, .none, []⟩

/-- The blank space after a line break that was escaped. -/
def escaped : Gap :=
  ⟨[], true, .none, []⟩

/-- Nothing has been read since the last word. -/
def isNone (gap : Gap) : Bool :=
  gap.blanks.isEmpty && !gap.broken

/-- The blank space with one more character, which is a blank or a line break. -/
def push (c : Char) (gap : Gap) : Gap :=
  if isBreak c then
    if gap.broken then { gap with others := c :: gap.others }
    else { gap with blanks := [], broken := true, first := some c }
  else if gap.broken then gap
  else { gap with blanks := c :: gap.blanks }

/-- The text of the blank space in a folded scalar, the last character first. -/
def folded (gap : Gap) : List Char :=
  if gap.broken then
    if gap.first = some '\n' then if gap.others.isEmpty then [' '] else gap.others
    else gap.others ++ gap.first.toList
  else gap.blanks

end Gap

end TemplateCatalog.Yaml
