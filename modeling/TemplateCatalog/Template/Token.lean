import TemplateCatalog.Template.Escape
import TemplateCatalog.Template.Numeral
import TemplateCatalog.Text.Blank

/-!
# Tokens of templates

A template is text with outputs between double braces, tags between braces with percent signs, and
comments between braces with number signs. The lexer cuts it into the pieces of text and the words
of outputs and tags. A sign next to a delimiter trims the text on its side: a minus removes all
blank space, a plus keeps it.

Main statement: `tokens_of_findOpening_eq_none`, a template without delimiters is one piece of text.
-/

namespace TemplateCatalog.Template

open Text (isBlank dropBlanks)

/-- A token of a template. -/
inductive Token where
  /-- A piece of text. -/
  | data (s : String)
  /-- The start of an output. -/
  | outputStart
  /-- The end of an output. -/
  | outputEnd
  /-- The start of a tag. -/
  | tagStart
  /-- The end of a tag. -/
  | tagEnd
  /-- A name or a keyword. -/
  | name (s : String)
  /-- A text between quotes. -/
  | string (s : String)
  /-- An integer. -/
  | int (n : Nat)
  /-- A floating point number. -/
  | float (x : Float)
  /-- An operator or a punctuation mark. -/
  | mark (s : String)
  /-- The template is at fault from here on. -/
  | fault (fault : Fault)
  deriving DecidableEq

/-- What a delimiter opens. -/
inductive Opening where
  /-- An output. -/
  | output
  /-- A tag. -/
  | tag
  /-- A comment. -/
  | comment
  deriving DecidableEq

/-- Where the lexer stands. -/
inductive LexerMode where
  /-- In text, whose blank space at the start is removed or kept. -/
  | outside (trim : Bool)
  /-- In an output or a tag, with so many brackets open, and maybe behind a point. -/
  | inside (isTag : Bool) (depth : Int) (afterPoint : Bool)

/-! ### Text -/

/-- The first delimiter: the text before it, what it opens, and what follows it. -/
def findOpening : List Char → Option (List Char × Opening × List Char)
  | [] => none
  | '\x7b' :: '\x7b' :: rest => some ([], .output, rest)
  | '\x7b' :: '%' :: rest => some ([], .tag, rest)
  | '\x7b' :: '#' :: rest => some ([], .comment, rest)
  | c :: rest => (findOpening rest).map fun found => (c :: found.1, found.2)

/-- What comes before the first occurrence of two characters, and what follows it. -/
def splitAtPair (a b : Char) : List Char → Option (List Char × List Char)
  | [] => none
  | c :: rest =>
    if c == a && rest.head? == some b then some ([], rest.drop 1)
    else (splitAtPair a b rest).map fun found => (c :: found.1, found.2)

/-- Drop a sign next to a delimiter. -/
def dropSign : List Char → List Char
  | '-' :: rest => rest
  | '+' :: rest => rest
  | rest => rest

/-- The text without blank space at its end. -/
def trimEnd (cs : List Char) : List Char :=
  (dropBlanks cs.reverse).reverse

/-- A piece of text as a token, unless it is empty. -/
def dataTokens (cs : List Char) : List Token :=
  if cs.isEmpty then [] else [.data (String.ofList cs)]

/-- White space between the words of a tag. -/
def isTagSpace (c : Char) : Bool :=
  c == ' ' || c == '\t' || c == '\n' || c == '\r' || c == '\x0c'

/-- What follows a tag that consists of a keyword, and the sign before its end. -/
def afterKeyword? (keyword : String) (cs : List Char) : Option (Option Char × List Char) := do
  let cs := cs.dropWhile isTagSpace
  if !keyword.toList.isPrefixOf cs then none
  else
    let cs := (cs.drop keyword.length).dropWhile isTagSpace
    let rest := dropSign cs
    let sign := if rest.length < cs.length then cs.head? else none
    match rest with
    | '%' :: '\x7d' :: rest => some (sign, rest)
    | _ => none

/-- The text up to the tag that ends a raw section, the text behind that tag, and whether each of
the two sides of the tag is trimmed. -/
def splitRaw : List Char → Option (List Char × Bool × Bool × List Char)
  | [] => none
  | c :: rest =>
    let ending : Option (Option Char × List Char) :=
      if c == '\x7b' && rest.head? == some '%' then afterKeyword? "endraw" (dropSign (rest.drop 1))
      else none
    match ending with
    | some (sign, after) => some ([], rest[1]? == some '-', sign == some '-', after)
    | none => (splitRaw rest).map fun found => (c :: found.1, found.2)

/-! ### Words -/

/-- The character can start a name. -/
def startsName (c : Char) : Bool :=
  c == '_' || c.isAlpha

/-- The character can stand within a name. -/
def inName (c : Char) : Bool :=
  c == '_' || c.isAlphanum

/-- The marks of two characters. -/
def doubleMarks : List String :=
  ["//", "**", "==", "!=", ">=", "<="]

/-- The marks of one character. -/
def singleMarks : List Char :=
  ['+', '-', '*', '/', '%', '.', ',', ':', '~', '|', '=', '>', '<', '(', ')', '[', ']', '\x7b',
    '\x7d']

/-- How a mark changes the number of open brackets. -/
def bracketChange (c : Char) : Int :=
  if c == '(' || c == '[' || c == '\x7b' then 1
  else if c == ')' || c == ']' || c == '\x7d' then -1
  else 0

/-- The characters of a quoted text up to its closing quote, and what follows that. -/
def splitQuote (quote : Char) (escaped : Bool) : List Char → Option (List Char × List Char)
  | [] => none
  | c :: rest =>
    if escaped then (splitQuote quote false rest).map fun found => (c :: found.1, found.2)
    else if c == quote then some ([], rest)
    else (splitQuote quote (c == '\\') rest).map fun found => (c :: found.1, found.2)

/-- The part of a number that is being read. -/
inductive NumberPart where
  /-- The digits of a decimal integer. -/
  | whole
  /-- The digits of an integer of another base. -/
  | based
  /-- The digits after a point. -/
  | fraction
  /-- The start of an exponent. -/
  | exponent
  /-- The digits of an exponent. -/
  | power
  deriving DecidableEq

/-- The part of a number that a character leads to, unless the number ends before it. -/
def NumberPart.next? (part : NumberPart) (hex : Bool) (c : Char) : Option NumberPart :=
  if c == '.' && part == .whole then some .fraction
  else if (c == 'e' || c == 'E') && (part == .whole || part == .fraction) then some .exponent
  else if (c == '+' || c == '-') && part == .exponent then some .power
  else if c.isDigit then some (if part == .exponent then .power else part)
  else if hex && part == .based && (Text.hexDigit? c).isSome then some part
  else if c == '_' then some part
  else none

/-- What follows a point is an exponent. -/
def startsExponent : List Char → Bool
  | c :: rest => (c == 'e' || c == 'E') && ((splitSign rest).2.head?.any Char.isDigit)
  | [] => false

/-- What follows a point is the name of an attribute. -/
def startsAttribute (cs : List Char) : Bool :=
  cs.head?.any startsName && !startsExponent cs

/-- The characters of a number, the part that it ends in, and what follows it. A point in front of
the name of an attribute does not belong to the number. -/
def splitNumber (part : NumberPart) (hex : Bool) : List Char → List Char × NumberPart × List Char
  | [] => ([], part, [])
  | c :: rest =>
    let next := if c == '.' && startsAttribute rest then none else part.next? hex c
    match next with
    | some next =>
      let found := splitNumber next hex rest
      (c :: found.1, found.2)
    | none => ([], part, c :: rest)

/-- The base that a number is written in. -/
def baseOf : List Char → Nat
  | '0' :: c :: _ =>
    if c == 'b' || c == 'B' then 2
    else if c == 'o' || c == 'O' then 8
    else if c == 'x' || c == 'X' then 16
    else 10
  | _ => 10

/-- The token of a number, and what follows it. -/
def scanNumber (cs : List Char) : Token × List Char :=
  let base := baseOf cs
  let part : NumberPart := if base = 10 then .whole else .based
  let (number, last, rest) := splitNumber part (base == 16) (if base = 10 then cs else cs.drop 2)
  let digits := number.filter (· ≠ '_')
  let token : Option Token :=
    if number.getLast? = some '_' then none
    else if last == .whole || last == .based then
      ((Text.digits? base digits).filter (· < twoTo 128)).map .int
    else (decimal? digits).map .float
  (token.getD (.fault .malformed), rest)

/-- The token of a quoted text behind its opening quote, and what follows it. -/
def scanString (quote : Char) (cs : List Char) : Token × List Char :=
  match splitQuote quote false cs with
  | none => (.fault .malformed, [])
  | some (body, rest) =>
    match unescape body with
    | .ok text => (.string (String.ofList text), rest)
    | .error fault => (.fault fault, [])

/-- The token of an index behind a point, and what follows it. -/
def scanIndex (cs : List Char) : Token × List Char :=
  let index := (Text.digits? 10 (cs.takeWhile Char.isDigit)).filter (· < twoTo 128)
  ((index.map .int).getD (.fault .malformed), cs.dropWhile Char.isDigit)

/-- The next word of an output or a tag, and what follows it. -/
def scanWord (afterPoint : Bool) (c : Char) (rest : List Char) : Token × List Char :=
  let double := String.ofList (c :: rest.take 1)
  if doubleMarks.contains double then (.mark double, rest.drop 1)
  else if singleMarks.contains c then (.mark (String.singleton c), rest)
  else if c == '"' || c.toNat == 0x27 then scanString c rest
  else if c.isDigit then (if afterPoint then scanIndex (c :: rest) else scanNumber (c :: rest))
  else if startsName c then
    (.name (String.ofList (c :: rest.takeWhile inName)), rest.dropWhile inName)
  else (.fault .malformed, [])

/-- The end of an output or a tag, if one stands here: whether the text behind it is trimmed, and
that text. -/
def closing? (isTag : Bool) (cs : List Char) : Option (Bool × List Char) :=
  let mark : Char := if isTag then '%' else '\x7d'
  match dropSign cs with
  | a :: b :: rest =>
    if a == mark && b == '\x7d' then some (cs.head? == some '-', rest) else none
  | _ => none

/-- The tokens from some place on. Each step takes at least one character, so as many steps as
there are characters, and one for the end, are enough. -/
def tokensFrom : Nat → LexerMode → List Char → List Token
  | 0, _, _ => [.fault .malformed]
  | steps + 1, .outside trim, cs =>
    let cs := if trim then dropBlanks cs else cs
    match findOpening cs with
    | none => dataTokens cs
    | some (lead, opening, rest) =>
      let lead := if rest.head? = some '-' then trimEnd lead else lead
      let rest := dropSign rest
      dataTokens lead ++
        match opening with
        | .output => .outputStart :: tokensFrom steps (.inside false 0 false) rest
        | .comment =>
          match splitAtPair '#' '\x7d' rest with
          | none => [.fault .malformed]
          | some (body, rest) =>
            tokensFrom steps (.outside (body.getLast? == some '-')) rest
        | .tag =>
          match afterKeyword? "raw" rest with
          | none => .tagStart :: tokensFrom steps (.inside true 0 false) rest
          | some (sign, rest) =>
            match splitRaw rest with
            | none => [.fault .malformed]
            | some (body, trimEnding, trimAfter, rest) =>
              let body := if sign = some '-' then dropBlanks body else body
              let body := if trimEnding then trimEnd body else body
              .data (String.ofList body) :: tokensFrom steps (.outside trimAfter) rest
  | steps + 1, .inside isTag depth afterPoint, cs =>
    let cs := cs.dropWhile isTagSpace
    let ending := if depth = 0 then closing? isTag cs else none
    match ending, cs with
    | some (trim, rest), _ =>
      (if isTag then .tagEnd else .outputEnd) :: tokensFrom steps (.outside trim) rest
    | none, [] => []
    | none, c :: rest =>
      let (token, rest) := scanWord afterPoint c rest
      match token with
      | .fault fault => [.fault fault]
      | _ =>
        let depth := depth + bracketChange c
        token :: tokensFrom steps (.inside isTag depth (token == .mark ".")) rest

/-- The tokens of a template. -/
def tokens (source : String) : List Token :=
  let cs := source.toList
  tokensFrom (cs.length + 1) (.outside false) cs

/-- A template without delimiters is one piece of text. -/
theorem tokens_of_findOpening_eq_none {source : String} (h : findOpening source.toList = none) :
    tokens source = if source.toList.isEmpty then [] else [.data source] := by
  simp [tokens, tokensFrom, h, dataTokens, String.ofList_toList]

end TemplateCatalog.Template
