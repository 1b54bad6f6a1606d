import TemplateCatalog.Yaml.Folding

/-!
# Block scalars

Literal and folded scalars, which are set off by their indentation. The header may fix the
indentation and says what becomes of the line breaks at the end.
-/

namespace TemplateCatalog.Yaml

/-- What becomes of the line breaks at the end of a block scalar. -/
inductive Chomping where
  /-- All are dropped. -/
  | strip
  /-- The first one is kept. -/
  | clip
  /-- All are kept. -/
  | keep
  deriving DecidableEq

/-- The header of a block scalar. -/
structure BlockHeader where
  /-- What becomes of the line breaks at the end. -/
  chomping : Chomping
  /-- The indentation relative to the surrounding block; zero if it is to be found out. -/
  increment : Nat

/-- The chomping that a character asks for. -/
def chomping? (c : Char) : Option Chomping :=
  if c = '+' then some .keep else if c = '-' then some .strip else none

/-- The header of a block scalar after its indicator, and what is left. -/
def scanHeader (spots : List Spot) : Option (BlockHeader × List Spot) :=
  match spots with
  | [] => some (⟨.clip, 0⟩, [])
  | spot :: rest =>
    match chomping? spot.char with
    | some chomping =>
      match rest with
      | next :: after =>
        if next.char.isDigit then
          if next.char = '0' then none else some (⟨chomping, next.char.toNat - 48⟩, after)
        else some (⟨chomping, 0⟩, rest)
      | [] => some (⟨chomping, 0⟩, rest)
    | none =>
      if spot.char.isDigit then
        if spot.char = '0' then none
        else
          let increment := spot.char.toNat - 48
          match rest with
          | next :: after =>
            match chomping? next.char with
            | some chomping => some (⟨chomping, increment⟩, after)
            | none => some (⟨.clip, increment⟩, rest)
          | [] => some (⟨.clip, increment⟩, rest)
      else some (⟨.clip, 0⟩, spot :: rest)

/-- Empty lines of a block scalar. -/
structure EmptyLines where
  /-- Their line breaks, the last one first. -/
  breaks : List Char
  /-- The width of the widest indentation that was passed over. -/
  width : Nat
  /-- What is left. -/
  rest : List Spot

/-- Pass over empty lines and indentation. An indentation of zero is not known yet. -/
def scanEmptyLines (indent : Nat) (spots : List Spot) (breaks : List Char) (width : Nat) :
    Option EmptyLines :=
  match spots with
  | [] => some ⟨breaks, width, []⟩
  | spot :: rest =>
    let inIndent := indent = 0 || spot.column < indent
    if inIndent && spot.char == ' ' then
      scanEmptyLines indent rest breaks (max width (spot.column + 1))
    else if inIndent && spot.char == '\t' then none
    else if isBreak spot.char then scanEmptyLines indent rest (spot.char :: breaks) width
    else some ⟨breaks, width, spot :: rest⟩

/-- A block scalar under construction, its last character first. -/
structure BlockScan where
  /-- The text. -/
  text : List Char
  /-- The break that ended the last line. -/
  lead : List Char
  /-- The breaks of the empty lines after that, the last one first. -/
  trail : List Char
  /-- The last line started with a blank. -/
  leadingBlank : Bool

/-- The text with the line breaks since the last line. -/
def BlockScan.joined (scan : BlockScan) (literal trailingBlank : Bool) : List Char :=
  if !literal && scan.lead == ['\n'] && !scan.leadingBlank && !trailingBlank then
    scan.trail ++ ((if scan.trail.isEmpty then [' '] else []) ++ scan.text)
  else scan.trail ++ (scan.lead ++ scan.text)

/-- The lines of a block scalar with the given indentation, and what is left. There is nothing to
do without steps; the number of characters left is enough. -/
def scanLines (literal : Bool) (indent : Nat) :
    Nat → List Spot → BlockScan → Option (BlockScan × List Spot)
  | 0, spots, scan => some (scan, spots)
  | steps + 1, spots, scan =>
    match spots with
    | [] => some (scan, [])
    | spot :: _ =>
      if spot.column = indent then
        let blank := isBlank spot.char
        let (line, rest) := takeChars (!isBreak ·) spots
        match scanEmptyLines indent (rest.drop 1) [] 0 with
        | none => none
        | some empty =>
          scanLines literal indent steps empty.rest
            { text := line.reverse ++ scan.joined literal blank
              lead := (rest.take 1).map Spot.char
              trail := empty.breaks
              leadingBlank := blank }
      else some (scan, spots)

/-- The block scalar after its indicator, its last character first, and what is left. The
surrounding block is indented by `outer`, which is `-1` outside of all blocks. -/
def scanBlock (literal : Bool) (outer : Int) (spots : List Spot) :
    Option (List Char × List Spot) := do
  let (header, rest) ← scanHeader spots
  let rest ← dropLine? rest
  let fixed :=
    if header.increment = 0 then 0
    else if 0 ≤ outer then outer.toNat + header.increment else header.increment
  let empty ← scanEmptyLines fixed rest [] 0
  let indent := if fixed = 0 then max (max empty.width (outer + 1).toNat) 1 else fixed
  let (scan, rest) ←
    scanLines literal indent spots.length empty.rest ⟨[], [], empty.breaks, false⟩
  let text :=
    match header.chomping with
    | .strip => scan.text
    | .clip => scan.lead ++ scan.text
    | .keep => scan.trail ++ (scan.lead ++ scan.text)
  return (text, rest)

end TemplateCatalog.Yaml
