/-!
# Blank characters

White space in the sense of the Unicode property `White_Space`, and the trimming of texts by it.
Ids, titles, provider names and numerals are all trimmed by this one rule.

Main statements:

* `isBlank_of_isWhitespace`: the property extends the ASCII class of the standard library.
* `trimChars_eq_self`: trimming leaves a text alone if neither end of it is blank.
-/

namespace TemplateCatalog.Text

/-- The character has the property `White_Space`. -/
def isBlank (c : Char) : Bool :=
  let n := c.toNat
  (9 ≤ n && n ≤ 13) || n == 0x20 || n == 0x85 || n == 0xA0 || n == 0x1680 ||
    (0x2000 ≤ n && n ≤ 0x200A) || n == 0x2028 || n == 0x2029 || n == 0x202F || n == 0x205F ||
    n == 0x3000

/-- The characters without the blank ones at their start. -/
def dropBlanks (cs : List Char) : List Char :=
  cs.dropWhile isBlank

/-- The characters without the blank ones at either end. -/
def trimChars (cs : List Char) : List Char :=
  (dropBlanks (dropBlanks cs).reverse).reverse

/-- The text without the blank characters at either end. -/
def trim (s : String) : String :=
  String.ofList (trimChars s.toList)

/-- The text without the blank characters at its start. -/
def trimStart (s : String) : String :=
  String.ofList (dropBlanks s.toList)

/-- The text without the blank characters at its end. -/
def trimEnd (s : String) : String :=
  String.ofList (dropBlanks s.toList.reverse).reverse

/-- The text has no character that is not blank. -/
def isBlankText (s : String) : Bool :=
  s.toList.all isBlank

/-- Every white space character of the standard library is blank. -/
theorem isBlank_of_isWhitespace {c : Char} (h : c.isWhitespace = true) : isBlank c = true := by
  simp only [Char.isWhitespace, Bool.or_eq_true, decide_eq_true_eq] at h
  rcases h with ((h | h) | h) | h <;> subst h <;> decide

/-- Dropping blanks leaves a list alone exactly if its first character is not blank. -/
theorem dropBlanks_eq_self_iff {cs : List Char} :
    dropBlanks cs = cs ↔ ∀ c ∈ cs.head?, isBlank c = false := by
  cases cs with
  | nil => simp [dropBlanks]
  | cons c cs =>
    cases hc : isBlank c with
    | false => simp [dropBlanks, hc]
    | true =>
      have shorter : (dropBlanks (c :: cs)).length ≤ cs.length := by
        simpa [dropBlanks, hc] using (List.dropWhile_sublist isBlank).length_le
      constructor
      · intro h
        rw [h, List.length_cons] at shorter
        omega
      · simp [hc]

/-- A list with no blank character at either end is its own trimmed form. -/
theorem trimChars_eq_self {cs : List Char} (first : ∀ c ∈ cs.head?, isBlank c = false)
    (last : ∀ c ∈ cs.getLast?, isBlank c = false) : trimChars cs = cs := by
  rw [trimChars, dropBlanks_eq_self_iff.2 first, dropBlanks_eq_self_iff.2 (by simpa using last),
    List.reverse_reverse]

end TemplateCatalog.Text
