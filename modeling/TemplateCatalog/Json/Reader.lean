import TemplateCatalog.Json.Numeral
import TemplateCatalog.Source.Decode
import TemplateCatalog.Text.Digit

/-!
# Reading JSON

The grammar of JSON, read into the nodes of a source document. Every text that the grammar allows
is read, whatever its nesting: bounds on the nesting, the range of numbers and the pairing of
surrogates are matters of what is decoded from the nodes.

Each reading function returns the characters that it leaves over. The recursion through nested
values is on a number of steps, for which the length of the text is enough.
-/

namespace TemplateCatalog.Json

open Source (Node Scalar)

/-- Blank space between the tokens of JSON. -/
def isSpace (c : Char) : Bool :=
  c == ' ' || c == '\n' || c == '\t' || c == '\r'

/-- The characters after the blank space. -/
def skipSpace (cs : List Char) : List Char :=
  cs.dropWhile isSpace

/-- The character that a one-letter escape stands for. -/
def escaped? : Char → Option Char
  | '"' => some '"'
  | '\\' => some '\\'
  | '/' => some '/'
  | 'b' => some '\x08'
  | 'f' => some '\x0c'
  | 'n' => some '\n'
  | 'r' => some '\r'
  | 't' => some '\t'
  | _ => none

/-- The code units of a string up to its closing quote, and the characters after that. -/
def readUnits : List Char → List Nat → Option (List Nat × List Char)
  | '"' :: rest, units => some (units.reverse, rest)
  | '\\' :: 'u' :: a :: b :: c :: d :: rest, units =>
    match Text.hexDigit? a, Text.hexDigit? b, Text.hexDigit? c, Text.hexDigit? d with
    | some a, some b, some c, some d =>
      readUnits rest ((a * 4096 + b * 256 + c * 16 + d) :: units)
    | _, _, _, _ => none
  | '\\' :: c :: rest, units =>
    match escaped? c with
    | some e => readUnits rest (e.toNat :: units)
    | none => none
  | c :: rest, units => if c.toNat < 32 then none else readUnits rest (c.toNat :: units)
  | [], _ => none

/-- The text of code units in which every high surrogate is followed by a low one. -/
def pairUnits : List Nat → Option (List Char)
  | [] => some []
  | high :: rest =>
    if 0xD800 ≤ high ∧ high ≤ 0xDBFF then
      match rest with
      | low :: rest =>
        if 0xDC00 ≤ low ∧ low ≤ 0xDFFF then
          (pairUnits rest).map
            (Char.ofNat (0x10000 + (high - 0xD800) * 0x400 + (low - 0xDC00)) :: ·)
        else none
      | [] => none
    else if 0xDC00 ≤ high ∧ high ≤ 0xDFFF then none
    else (pairUnits rest).map (Char.ofNat high :: ·)

/-- The string after an opening quote, as a text if it is one. -/
def readString (cs : List Char) : Option (Option String × List Char) :=
  (readUnits cs []).map fun (units, rest) => ((pairUnits units).map String.ofList, rest)

/-- The digits at the start of the characters. -/
def readDigits (cs : List Char) : List Nat × List Char :=
  ((cs.takeWhile Char.isDigit).map fun c => c.toNat - 48, cs.dropWhile Char.isDigit)

/-- The exponent after its mark. -/
def readExponent (cs : List Char) : Option ((Bool × List Nat) × List Char) :=
  let (down, cs) :=
    match cs with
    | '+' :: cs => (false, cs)
    | '-' :: cs => (true, cs)
    | cs => (false, cs)
  let (digits, rest) := readDigits cs
  if digits.isEmpty then none else some ((down, digits), rest)

/-- The fraction, if there is one, after a whole part. -/
def readFraction : List Char → Option (List Nat × List Char)
  | '.' :: cs =>
    let (digits, rest) := readDigits cs
    if digits.isEmpty then none else some (digits, rest)
  | cs => some ([], cs)

/-- The numeral at the start of the characters. -/
def readNumeral (cs : List Char) : Option (Numeral × List Char) := do
  let (negative, cs) :=
    match cs with
    | '-' :: cs => (true, cs)
    | cs => (false, cs)
  let (whole, cs) := readDigits cs
  if whole.isEmpty ∨ (whole.head? = some 0 ∧ whole.length ≠ 1) then none
  else
    let (fraction, cs) ← readFraction cs
    match cs with
    | 'e' :: cs | 'E' :: cs =>
      let (exponent, rest) ← readExponent cs
      return (⟨negative, whole, fraction, some exponent⟩, rest)
    | cs => return (⟨negative, whole, fraction, none⟩, cs)

mutual

/-- The value at the start of the characters. -/
def readValue : Nat → List Char → Option (Node × List Char)
  | 0, _ => none
  | steps + 1, cs =>
    match skipSpace cs with
    | 'n' :: 'u' :: 'l' :: 'l' :: rest => some (.scalar .null, rest)
    | 't' :: 'r' :: 'u' :: 'e' :: rest => some (.scalar (.ofBool true), rest)
    | 'f' :: 'a' :: 'l' :: 's' :: 'e' :: rest => some (.scalar (.ofBool false), rest)
    | '"' :: rest => do
      let (text, rest) ← readString rest
      return (.scalar (.ofText text), rest)
    | '[' :: rest =>
      match skipSpace rest with
      | ']' :: rest => some (.sequence false [], rest)
      | rest => do
        let (items, rest) ← readItems steps rest
        return (.sequence false items, rest)
    | '\x7b' :: rest =>
      match skipSpace rest with
      | '\x7d' :: rest => some (.mapping false [], rest)
      | rest => do
        let (entries, rest) ← readMembers steps rest
        return (.mapping false entries, rest)
    | rest => do
      let (numeral, rest) ← readNumeral rest
      return (.scalar (.ofNumber numeral.number?), rest)

/-- The items of a list that is not empty, up to its closing bracket. -/
def readItems : Nat → List Char → Option (List Node × List Char)
  | 0, _ => none
  | steps + 1, cs => do
    let (item, rest) ← readValue steps cs
    match skipSpace rest with
    | ']' :: rest => return ([item], rest)
    | ',' :: rest =>
      let (items, rest) ← readItems steps rest
      return (item :: items, rest)
    | _ => none

/-- The members of an object that is not empty, up to its closing brace. -/
def readMembers : Nat → List Char → Option (List (Node × Node) × List Char)
  | 0, _ => none
  | steps + 1, cs =>
    match skipSpace cs with
    | '"' :: rest => do
      let (name, rest) ← readString rest
      match skipSpace rest with
      | ':' :: rest =>
        let (value, rest) ← readValue steps rest
        let entry := (Node.scalar (.ofText name), value)
        match skipSpace rest with
        | '\x7d' :: rest => return ([entry], rest)
        | ',' :: rest =>
          let (entries, rest) ← readMembers steps rest
          return (entry :: entries, rest)
        | _ => none
      | _ => none
    | _ => none

end

/-- The node of a whole text. -/
def readNode? (text : String) : Option Node := do
  let cs := text.toList
  let (node, rest) ← readValue (cs.length + 1) cs
  if (skipSpace rest).isEmpty then some node else none

/-- The document that a text in JSON holds. -/
def document? (text : String) : Option Source.Document :=
  (readNode? text).map fun root => ⟨.json, root, [], 0⟩

/-- The value that a text in JSON holds. -/
def parse? (text : String) : Option Value :=
  (document? text).bind Source.Document.value?

end TemplateCatalog.Json
