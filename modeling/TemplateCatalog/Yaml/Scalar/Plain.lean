import TemplateCatalog.Yaml.Folding

/-!
# Plain scalars

Scalars without quotes. They end before a comment, before the mark of a value, before a flow
indicator inside a flow collection, and where the indentation falls back.
-/

namespace TemplateCatalog.Yaml

/-- The character is a flow indicator. -/
def isFlowIndicator (c : Char) : Bool :=
  c == ',' || c == '[' || c == ']' || c == '\x7b' || c == '\x7d'

/-- A plain scalar, its last character first. -/
structure PlainScan where
  /-- The text. -/
  text : List Char
  /-- A line break was passed over at the end. -/
  broken : Bool
  /-- What is left. -/
  rest : List Spot

/-- A colon stands where it can neither end a plain scalar nor belong to it. -/
def isStrayColon (flow : Bool) (c : Char) (rest : List Spot) : Bool :=
  flow && c == ':' && (peek? rest).any fun next => isFlowIndicator next || next == '?'

/-- A plain scalar ends before a character that is not blank, given whether it has a text so far
and whether blank space came before. -/
def endsPlain (flow : Bool) (indent : Nat) (empty gap : Bool) (spot : Spot) (rest : List Spot) :
    Bool :=
  (gap && !flow && decide (spot.column < indent)) || atDocumentMarker (spot :: rest) ||
    (spot.char == '#' && (gap || empty)) || (spot.char == ':' && atBlankOrBreak rest) ||
    (flow && isFlowIndicator spot.char)

/-- The plain scalar that starts here, given how far it has to be indented. -/
def scanPlain (flow : Bool) (indent : Nat) (spots : List Spot) (text : List Char) (gap : Gap) :
    Option PlainScan :=
  match spots with
  | [] => some ⟨text, gap.broken, []⟩
  | spot :: rest =>
    if isBlank spot.char || isBreak spot.char then
      if gap.broken && spot.column < indent && spot.char == '\t' then none
      else scanPlain flow indent rest text (gap.push spot.char)
    else if endsPlain flow indent text.isEmpty (!gap.isNone) spot rest then
      some ⟨text, gap.broken, spot :: rest⟩
    else if isStrayColon flow spot.char rest then none
    else scanPlain flow indent rest (spot.char :: (gap.folded ++ text)) .none

end TemplateCatalog.Yaml
