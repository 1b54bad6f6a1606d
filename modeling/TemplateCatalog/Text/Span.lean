/-!
# Spans of characters

Sets of characters as lists of spans, each given by the numbers of its first and its last character.
-/

namespace TemplateCatalog.Text

/-- The first and the last character of every span. -/
abbrev Spans : Type :=
  List (Nat × Nat)

/-- The character lies in one of the spans. -/
def inSpans (spans : Spans) (c : Char) : Bool :=
  spans.any fun span => span.1 ≤ c.toNat && c.toNat ≤ span.2

end TemplateCatalog.Text
