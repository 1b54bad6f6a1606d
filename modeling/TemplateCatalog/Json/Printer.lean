import TemplateCatalog.Decimal.Layout
import TemplateCatalog.Json.Value
import TemplateCatalog.Text.Digit

/-!
# Printing JSON

Values as text, in the compact form of messages and in the indented form of reports. A `Tree` is
a value whose fields keep the order in which they were listed: reports name the fields of a
record in the order of its declaration, values in the order of their names.
-/

namespace TemplateCatalog.Json

/-- Numbers are written in place while the leading digit stands between `10 ^ -5` and `10 ^ 15`,
and with an exponent otherwise; of two shortest decimals the even one is written. -/
def numberLayout : Decimal.Layout where
  positionalFrom := some (-5)
  exponentFrom := some 16
  tie := .toEven
  exponentStyle := .signed

/-- The text of a number. -/
def Number.render : Number → String
  | .integer n => toString n
  | .float x => numberLayout.render x

/-- The characters of a string that stand for a character of its text. -/
def escapeChar (c : Char) : List Char :=
  if c = '"' then ['\\', '"']
  else if c = '\\' then ['\\', '\\']
  else if c = '\x08' then ['\\', 'b']
  else if c = '\x0c' then ['\\', 'f']
  else if c = '\n' then ['\\', 'n']
  else if c = '\r' then ['\\', 'r']
  else if c = '\t' then ['\\', 't']
  else if c.toNat < 32 then
    ['\\', 'u', '0', '0', Text.hexDigit (c.toNat / 16), Text.hexDigit (c.toNat % 16)]
  else [c]

/-- The text between quotes. -/
def quote (s : String) : String :=
  String.ofList ('"' :: s.toList.flatMap escapeChar ++ ['"'])

/-- A printable tree: a value whose objects keep the order of their fields. -/
inductive Tree where
  /-- A text that is printed as it is. -/
  | atom (text : String)
  /-- A list. -/
  | list (items : List Tree)
  /-- A record. -/
  | record (fields : List (String × Tree))

namespace Tree

mutual

/-- The tree of a value. -/
def ofValue : Value → Tree
  | .null => .atom "null"
  | .bool b => .atom (if b then "true" else "false")
  | .number n => .atom n.render
  | .string s => .atom (quote s)
  | .array items => .list (ofItems items)
  | .object fields => .record (ofFields fields)

/-- The trees of a list of values. -/
def ofItems : List Value → List Tree
  | [] => []
  | item :: items => ofValue item :: ofItems items

/-- The trees of the fields of an object. -/
def ofFields : List (String × Value) → List (String × Tree)
  | [] => []
  | (name, value) :: fields => (name, ofValue value) :: ofFields fields

end

/-- The tree of a text. -/
def string (s : String) : Tree :=
  .atom (quote s)

/-- The tree of a natural number. -/
def nat (n : Nat) : Tree :=
  .atom (toString n)

/-- The tree of a list of texts. -/
def strings (texts : List String) : Tree :=
  .list (texts.map string)

mutual

/-- The tree without any blank space. -/
def compact : Tree → String
  | .atom text => text
  | .list items => "[" ++ compactItems items ++ "]"
  | .record fields => "\x7b" ++ compactFields fields ++ "\x7d"

/-- Items separated by commas. -/
def compactItems : List Tree → String
  | [] => ""
  | [item] => compact item
  | item :: items => compact item ++ "," ++ compactItems items

/-- Fields separated by commas. -/
def compactFields : List (String × Tree) → String
  | [] => ""
  | [(name, item)] => quote name ++ ":" ++ compact item
  | (name, item) :: fields => quote name ++ ":" ++ compact item ++ "," ++ compactFields fields

end

/-- The start of a line at a level of nesting. -/
def indent (level : Nat) : String :=
  "\n" ++ String.ofList (List.replicate (2 * level) ' ')

mutual

/-- The tree with one item to a line, two blanks to a level of nesting. -/
def pretty (level : Nat) : Tree → String
  | .atom text => text
  | .list [] => "[]"
  | .list items => "[" ++ prettyItems (level + 1) items ++ indent level ++ "]"
  | .record [] => "\x7b\x7d"
  | .record fields => "\x7b" ++ prettyFields (level + 1) fields ++ indent level ++ "\x7d"

/-- Items, each on a line of its own. -/
def prettyItems (level : Nat) : List Tree → String
  | [] => ""
  | [item] => indent level ++ pretty level item
  | item :: items => indent level ++ pretty level item ++ "," ++ prettyItems level items

/-- Fields, each on a line of its own. -/
def prettyFields (level : Nat) : List (String × Tree) → String
  | [] => ""
  | [(name, item)] => indent level ++ quote name ++ ": " ++ pretty level item
  | (name, item) :: fields =>
    indent level ++ quote name ++ ": " ++ pretty level item ++ "," ++ prettyFields level fields

end

end Tree

/-- The value as text without any blank space. -/
def Value.compact (value : Value) : String :=
  (Tree.ofValue value).compact

end TemplateCatalog.Json
