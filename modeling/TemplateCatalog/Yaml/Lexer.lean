import TemplateCatalog.Yaml.Scalar.Block
import TemplateCatalog.Yaml.Scalar.Plain
import TemplateCatalog.Yaml.Scalar.Quoted
import TemplateCatalog.Yaml.Tag

/-!
# From characters to tokens

The tokens of a stream. Block structure comes from the columns: a token further right than the
block it stands in opens a new block, a token further left closes blocks. That a token is a key is
known only once the colon after it is seen, so a place where a key might start is remembered, and
the tokens for it are put in there afterwards.
-/

namespace TemplateCatalog.Yaml

/-- A place where a key might have started. -/
structure KeyStart where
  /-- The stream is malformed if no key starts there. -/
  required : Bool
  /-- How many tokens there were before. -/
  number : Nat
  /-- The line of the place. -/
  line : Nat
  /-- The column of the place. -/
  column : Nat
  /-- The index of the place. -/
  index : Nat

/-- The state of the scan. -/
structure Lexer where
  /-- The characters that are left. -/
  rest : List Spot
  /-- The tokens so far, the last one first. -/
  tokens : List Token
  /-- The column of the innermost block; `-1` outside of all blocks. -/
  indent : Int
  /-- The columns of the blocks around it. -/
  indents : List Int
  /-- The possible key of each open flow collection and, last, of the block around them. -/
  keys : List (Option KeyStart)
  /-- A key may start here. -/
  keyAllowed : Bool

namespace Lexer

/-- The state at the start of a stream. -/
def start (spots : List Spot) : Lexer where
  rest := spots
  tokens := []
  indent := -1
  indents := []
  keys := [none]
  keyAllowed := true

/-- Some flow collection is open. -/
def inFlow (lexer : Lexer) : Bool :=
  1 < lexer.keys.length

/-- One more token. -/
def emit (token : Token) (lexer : Lexer) : Lexer :=
  { lexer with tokens := token :: lexer.tokens }

/-- Another token before which `number` tokens stand. -/
def emitAt (number : Nat) (token : Token) (lexer : Lexer) : Lexer :=
  let after := lexer.tokens.length - number
  { lexer with tokens := lexer.tokens.take after ++ token :: lexer.tokens.drop after }

/-- Move past some characters. -/
def skip (count : Nat) (lexer : Lexer) : Lexer :=
  { lexer with rest := lexer.rest.drop count }

/-- Allow a key to start next, or not. -/
def allowKey (allowed : Bool) (lexer : Lexer) : Lexer :=
  { lexer with keyAllowed := allowed }

/-- Give up the possible key of the innermost collection. -/
def dropKey (lexer : Lexer) : Option Lexer :=
  match lexer.keys with
  | some key :: keys => if key.required then none else some { lexer with keys := none :: keys }
  | _ => some lexer

/-- Remember that a key might start here. -/
def saveKey (lexer : Lexer) : Option Lexer :=
  match lexer.keyAllowed, lexer.rest with
  | true, spot :: _ => do
    let key : KeyStart :=
      { required := !lexer.inFlow && lexer.indent == spot.column
        number := lexer.tokens.length
        line := spot.line
        column := spot.column
        index := spot.index }
    let lexer ← lexer.dropKey
    return { lexer with keys := some key :: lexer.keys.drop 1 }
  | _, _ => some lexer

/-- A possible key that can be one no longer at the given place: a key stands on one line and is
not longer than 1024 characters. -/
def KeyStart.isStale (spot : Spot) (key : KeyStart) : Bool :=
  key.line < spot.line || key.index + 1024 < spot.index

/-- Give up the possible keys that can be keys no longer. -/
def dropStaleKeys (lexer : Lexer) : Option Lexer :=
  match lexer.rest with
  | [] => some lexer
  | spot :: _ =>
    if lexer.keys.any (fun key => key.any fun key => key.required && KeyStart.isStale spot key)
    then none
    else some { lexer with keys := lexer.keys.map (·.filter fun key => !KeyStart.isStale spot key) }

/-- Open a block at the given column if it lies to the right of the innermost block. The token of
the new block goes to the end, or before which `number` tokens stand. -/
def openBlock (column : Nat) (number : Option Nat) (token : Token) (lexer : Lexer) : Lexer :=
  if lexer.inFlow || !decide (lexer.indent < column) then lexer
  else
    let opened := { lexer with indent := column, indents := lexer.indent :: lexer.indents }
    match number with
    | some number => opened.emitAt number token
    | none => opened.emit token

/-- Close the blocks that lie to the right of a column, given their columns from inside out. -/
def closeBlocksFrom (column : Int) (lexer : Lexer) : List Int → Lexer
  | [] => lexer
  | outer :: indents =>
    if column < lexer.indent then
      closeBlocksFrom column
        { lexer with indent := outer, indents, tokens := .blockEnd :: lexer.tokens } indents
    else lexer

/-- Close the blocks that lie to the right of a column. -/
def closeBlocks (column : Int) (lexer : Lexer) : Lexer :=
  if lexer.inFlow then lexer else lexer.closeBlocksFrom column lexer.indents

/-- Pass over blank space and comments. A new line allows a key in a block; tabs do not count as
blank space where a key may start in a block. -/
def skipBlank (flow : Bool) (allowed comment : Bool) : List Spot → Bool × List Spot
  | [] => (allowed, [])
  | spot :: rest =>
    if isBreak spot.char then skipBlank flow (allowed || !flow) false rest
    else if comment then skipBlank flow allowed true rest
    else if spot.char == byteOrderMark && spot.column == 0 then skipBlank flow allowed false rest
    else if spot.char == ' ' || ((flow || !allowed) && spot.char == '\t') then
      skipBlank flow allowed false rest
    else if spot.char == '#' then skipBlank flow allowed true rest
    else (allowed, spot :: rest)

/-- Scan a token that may be a key or the start of one. -/
def scanKeyPart (scan : List Spot → Option (Token × List Spot)) (lexer : Lexer) :
    Option Lexer := do
  let lexer ← lexer.saveKey
  let (token, rest) ← scan lexer.rest
  return { lexer with rest, tokens := token :: lexer.tokens, keyAllowed := false }

/-- Scan a marker that stands at the start of a line and closes all blocks. -/
def scanMarker (scan : List Spot → Option (Token × List Spot)) (lexer : Lexer) :
    Option Lexer := do
  let lexer ← (lexer.closeBlocks (-1)).dropKey
  let (token, rest) ← scan lexer.rest
  return { lexer with rest, tokens := token :: lexer.tokens, keyAllowed := false }

/-- Scan an opening bracket or brace. -/
def scanFlowStart (token : Token) (lexer : Lexer) : Option Lexer := do
  let lexer ← lexer.saveKey
  return ({ lexer with keys := none :: lexer.keys }.allowKey true |>.skip 1).emit token

/-- Scan a closing bracket or brace. -/
def scanFlowEnd (token : Token) (lexer : Lexer) : Option Lexer := do
  let lexer ← lexer.dropKey
  let keys := if lexer.inFlow then lexer.keys.drop 1 else lexer.keys
  return ({ lexer with keys }.allowKey false |>.skip 1).emit token

/-- Scan a comma between items. -/
def scanFlowEntry (lexer : Lexer) : Option Lexer := do
  let lexer ← lexer.dropKey
  return (lexer.allowKey true |>.skip 1).emit .flowEntry

/-- Scan a hyphen before an item. -/
def scanBlockEntry (column : Nat) (lexer : Lexer) : Option Lexer := do
  if !lexer.inFlow && !lexer.keyAllowed then none
  else
    let lexer ← (lexer.openBlock column none .blockSequenceStart).dropKey
    return (lexer.allowKey true |>.skip 1).emit .blockEntry

/-- Scan a question mark before a key. -/
def scanKey (column : Nat) (lexer : Lexer) : Option Lexer := do
  if !lexer.inFlow && !lexer.keyAllowed then none
  else
    let lexer ← (lexer.openBlock column none .blockMappingStart).dropKey
    return (lexer.allowKey (!lexer.inFlow) |>.skip 1).emit .key

/-- Scan a colon before a value. If a key might have started before it, one has. -/
def scanValue (column : Nat) (lexer : Lexer) : Option Lexer :=
  match lexer.keys with
  | some key :: keys =>
    let keyed := (lexer.emitAt key.number .key).openBlock key.column key.number .blockMappingStart
    some ((({ keyed with keys := none :: keys }.allowKey false).skip 1).emit .value)
  | _ =>
    if !lexer.inFlow && !lexer.keyAllowed then none
    else
      let opened := lexer.openBlock column none .blockMappingStart
      some ((opened.allowKey (!lexer.inFlow) |>.skip 1).emit .value)

/-- Scan a block scalar. -/
def scanBlockScalar (style : ScalarStyle) (lexer : Lexer) : Option Lexer := do
  let lexer ← lexer.dropKey
  let (text, rest) ← scanBlock (style == .literal) lexer.indent (lexer.rest.drop 1)
  return ({ lexer with rest }.allowKey true).emit (.scalar style (String.ofList text.reverse))

/-- Scan a plain scalar. -/
def scanPlainScalar (lexer : Lexer) : Option Lexer := do
  let lexer ← lexer.saveKey
  let scan ← scanPlain lexer.inFlow (lexer.indent + 1).toNat lexer.rest [] .none
  return ({ lexer with rest := scan.rest }.allowKey scan.broken).emit
    (.scalar .plain (String.ofList scan.text.reverse))

/-- The character has a meaning of its own at the start of a scalar: `-?:,[]{}#&*!|>'"%@` and the
grave accent. -/
def isIndicator (c : Char) : Bool :=
  "-?:,[]#&*!|>%@".toList.contains c || c == '\x7b' || c == '\x7d' || c == '"' ||
    c.toNat = 0x27 || c.toNat = 0x60

/-- A plain scalar may start here. -/
def startsPlain (flow : Bool) (c : Char) (rest : List Spot) : Bool :=
  (!isIndicator c && !isBlank c) ||
    (c == '-' && !(peek? rest).any isBlank) ||
    (!flow && (c == '?' || c == ':') && !atBlankOrBreak rest)

/-- Scan the token that starts at the given character. -/
def scanToken (spot : Spot) (rest : List Spot) (lexer : Lexer) : Option Lexer :=
  let flow := lexer.inFlow
  let named (token : String → Token) (spots : List Spot) : Option (Token × List Spot) :=
    (scanAnchorName (spots.drop 1)).map fun (name, rest) => (token name, rest)
  let quoted (single : Bool) (spots : List Spot) : Option (Token × List Spot) :=
    (scanQuoted single (spots.drop 1) [] .none).map fun (text, rest) =>
      (.scalar (if single then .single else .double) (String.ofList text.reverse), rest)
  if spot.column = 0 && spot.char = '%' then
    lexer.scanMarker fun spots => scanDirective (spots.drop 1)
  else if atMarker '-' lexer.rest then
    lexer.scanMarker fun spots => some (.documentStart, spots.drop 3)
  else if atMarker '.' lexer.rest then
    lexer.scanMarker fun spots => some (.documentEnd, spots.drop 3)
  else
    match spot.char with
    | '[' => lexer.scanFlowStart .flowSequenceStart
    | '\x7b' => lexer.scanFlowStart .flowMappingStart
    | ']' => lexer.scanFlowEnd .flowSequenceEnd
    | '\x7d' => lexer.scanFlowEnd .flowMappingEnd
    | ',' => lexer.scanFlowEntry
    | '*' => lexer.scanKeyPart (named .alias)
    | '&' => lexer.scanKeyPart (named .anchor)
    | '!' => lexer.scanKeyPart (scanTag flow)
    | '"' => lexer.scanKeyPart (quoted false)
    | c =>
      if c = '-' && atBlankOrBreak rest then lexer.scanBlockEntry spot.column
      else if c = '?' && (flow || atBlankOrBreak rest) then lexer.scanKey spot.column
      else if c = ':' && (flow || atBlankOrBreak rest) then lexer.scanValue spot.column
      else if c = '|' && !flow then lexer.scanBlockScalar .literal
      else if c = '>' && !flow then lexer.scanBlockScalar .folded
      else if c.toNat = 0x27 then lexer.scanKeyPart (quoted true)
      else if startsPlain flow c rest then lexer.scanPlainScalar
      else none

/-- Scan the rest of a stream. Every token takes at least one character, so one step more than
there are characters is enough. -/
def run : Nat → Lexer → Option (List Token)
  | 0, _ => none
  | steps + 1, lexer => do
    let (keyAllowed, rest) := skipBlank lexer.inFlow lexer.keyAllowed false lexer.rest
    let lexer ← { lexer with keyAllowed, rest }.dropStaleKeys
    match lexer.rest with
    | [] =>
      let lexer ← (lexer.closeBlocks (-1)).dropKey
      return lexer.tokens.reverse
    | spot :: rest => run steps (← (lexer.closeBlocks spot.column).scanToken spot rest)

end Lexer

/-- The tokens of a stream, if it is well formed as far as its tokens go. -/
def tokens? (text : String) : Option (List Token) := do
  let spots ← spots? text
  (Lexer.start spots).run (spots.length + 1)

end TemplateCatalog.Yaml
