import TemplateCatalog.Text.Digit
import TemplateCatalog.Yaml.Spot
import TemplateCatalog.Yaml.Token

/-!
# Tags, anchors and directives

The parts of a stream that name things: tags of nodes, anchors and references to them, and the
directives in front of a document.
-/

namespace TemplateCatalog.Yaml

/-- A character that a tag may hold as it is. -/
def isTagChar (verbatim : Bool) (c : Char) : Bool :=
  isWordChar c || ";/?:@&=+$.!~*()".toList.contains c || c.toNat == 0x27 ||
    (verbatim && (c == ',' || c == '[' || c == ']'))

/-- The byte that a percent sign and two digits stand for, and what is left. -/
def scanByte? : List Spot → Option (Nat × List Spot)
  | percent :: high :: low :: rest =>
    if percent.char = '%' then
      match Text.hexDigit? high.char, Text.hexDigit? low.char with
      | some h, some l => some (h * 16 + l, rest)
      | _, _ => none
    else none
  | _ => none

/-- The number of bytes of a character by its first byte, with the bits of that byte that count. -/
def leadByte? (byte : Nat) : Option (Nat × Nat) :=
  if byte < 0x80 then some (0, byte)
  else if byte / 32 = 6 then some (1, byte % 32)
  else if byte / 16 = 14 then some (2, byte % 16)
  else if byte / 8 = 30 then some (3, byte % 8)
  else none

/-- The further bytes of an escaped character. -/
def scanTrailBytes : (count value : Nat) → List Spot → Option (Nat × List Spot)
  | 0, value, spots => some (value, spots)
  | count + 1, value, spots => do
    let (byte, rest) ← scanByte? spots
    if byte / 64 = 2 then scanTrailBytes count (value * 64 + byte % 64) rest else none

/-- The characters of a tag, and what is left. There is nothing to do without steps; the number of
characters left is enough. -/
def scanTagChars (verbatim : Bool) : Nat → List Spot → Option (List Char × List Spot)
  | 0, spots => some ([], spots)
  | steps + 1, spots =>
    match spots with
    | [] => some ([], [])
    | spot :: rest =>
      if spot.char = '%' then do
        let (byte, after) ← scanByte? spots
        let (count, bits) ← leadByte? byte
        let (value, after) ← scanTrailBytes count bits after
        let (cs, after) ← scanTagChars verbatim steps after
        return (Char.ofNat value :: cs, after)
      else if isTagChar verbatim spot.char then do
        let (cs, after) ← scanTagChars verbatim steps rest
        return (spot.char :: cs, after)
      else some ([], spots)

/-- The handle that starts here with an exclamation mark, and what is left. -/
def scanHandle? : List Spot → Option (List Char × List Spot)
  | spot :: rest =>
    if spot.char = '!' then
      let (word, rest) := takeChars isWordChar rest
      if startsWith '!' rest then some ('!' :: word ++ ['!'], rest.drop 1)
      else some ('!' :: word, rest)
    else none
  | [] => none

/-- The tag that starts here. -/
def scanTag (flow : Bool) (spots : List Spot) : Option (Token × List Spot) := do
  let ending (token : Token) (rest : List Spot) : Option (Token × List Spot) :=
    if (flow && startsWith ',' rest) || atBlankOrBreak rest then some (token, rest) else none
  if startsWith '<' (spots.drop 1) then
    let (suffix, rest) ← scanTagChars true spots.length (spots.drop 2)
    if suffix.isEmpty || !startsWith '>' rest then none
    else ending (.tag "" (String.ofList suffix)) (rest.drop 1)
  else
    let (handle, rest) ← scanHandle? spots
    let (suffix, rest) ← scanTagChars false spots.length rest
    if 1 < handle.length && handle.getLast? == some '!' then
      if suffix.isEmpty then none
      else ending (.tag (String.ofList handle) (String.ofList suffix)) rest
    else
      let suffix := handle.drop 1 ++ suffix
      if suffix.isEmpty then ending (.tag "" "!") rest
      else ending (.tag "!" (String.ofList suffix)) rest

/-- The name of an anchor after its indicator, and what is left. -/
def scanAnchorName (spots : List Spot) : Option (String × List Spot) :=
  let (name, rest) := takeChars isWordChar spots
  let ends := (peek? rest).all fun c =>
    isBlank c || isBreak c || c.toNat = 0x60 || ['?', ':', ',', ']', '\x7d', '%', '@'].contains c
  if name.isEmpty || !ends then none else some (String.ofList name, rest)

/-- A number of a version, of at most nine digits. -/
def scanVersionNumber (spots : List Spot) : Option (Nat × List Spot) :=
  let (digits, rest) := takeChars Char.isDigit spots
  if digits.isEmpty || 9 < digits.length then none
  else some (digits.foldl (fun n c => n * 10 + (c.toNat - 48)) 0, rest)

/-- The value of a version directive. -/
def scanVersion (spots : List Spot) : Option (Token × List Spot) := do
  let (major, rest) ← scanVersionNumber (dropChars isBlank spots)
  if startsWith '.' rest then
    let (minor, rest) ← scanVersionNumber (rest.drop 1)
    return (.version major minor, rest)
  else none

/-- The value of a directive for tags. -/
def scanTagHandle (spots : List Spot) : Option (Token × List Spot) := do
  let (handle, rest) ← scanHandle? (dropChars isBlank spots)
  if handle.length ≠ 1 && handle.getLast? != some '!' then none
  else if !(peek? rest).any isBlank then none
  else
    let (start, rest) ← scanTagChars true spots.length (dropChars isBlank rest)
    if start.isEmpty || !atBlankOrBreak rest then none
    else return (.tagHandle (String.ofList handle) (String.ofList start), rest)

/-- The directive after its percent sign, up to the end of its line. -/
def scanDirective (spots : List Spot) : Option (Token × List Spot) := do
  let (name, rest) := takeChars isWordChar spots
  if name.isEmpty || !atBlankOrBreak rest then none
  else
    let (token, rest) ←
      match String.ofList name with
      | "YAML" => scanVersion rest
      | "TAG" => scanTagHandle rest
      | _ => none
    return (token, ← dropLine? rest)

end TemplateCatalog.Yaml
