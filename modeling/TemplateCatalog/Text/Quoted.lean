import TemplateCatalog.Text.Hidden

/-!
# Quoted texts

A text between double quotes the way a template shows it inside a list or a mapping: quotes,
backslashes and line breaks are escaped, and characters that do not show are given by number.
-/

namespace TemplateCatalog.Text

/-- The characters between quotes that stand for a character. -/
def quotedChar (c : Char) : List Char :=
  if c = '"' then ['\\', '"']
  else if c = '\\' then ['\\', '\\']
  else if c = '\n' then ['\\', 'n']
  else if c = '\r' then ['\\', 'r']
  else if c = '\t' then ['\\', 't']
  else if c.toNat = 0 then ['\\', '0']
  else if isHidden c then ['\\', 'u', '\x7b'] ++ Nat.toDigits 16 c.toNat ++ ['\x7d']
  else [c]

/-- The text between quotes. -/
def quoted (s : String) : String :=
  String.ofList ('"' :: s.toList.flatMap quotedChar ++ ['"'])

end TemplateCatalog.Text
