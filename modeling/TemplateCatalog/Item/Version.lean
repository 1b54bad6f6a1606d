import TemplateCatalog.Text.DecimalDigit

/-!
# Version numbers

The shape `major.minor.patch` that the version of an item has to have: three runs of decimal
digits of any script, joined by single dots.
-/

namespace TemplateCatalog.Item

/-- The parts of a text between its dots. -/
def dotParts : List Char → List (List Char)
  | [] => [[]]
  | c :: cs =>
    if c = '.' then [] :: dotParts cs
    else
      match dotParts cs with
      | part :: parts => (c :: part) :: parts
      | [] => [[c]]

/-- The characters are one or more decimal digits. -/
def isDigitRun (cs : List Char) : Bool :=
  !cs.isEmpty && cs.all Text.isDecimalDigit

/-- The text is three runs of decimal digits joined by dots. -/
def isVersion (text : String) : Bool :=
  let parts := dotParts text.toList
  parts.length == 3 && parts.all isDigitRun

/-- Joining the parts by dots gives back the text. -/
theorem intercalate_dotParts (cs : List Char) :
    ['.'].intercalate (dotParts cs) = cs := by
  induction cs with
  | nil => rfl
  | cons c cs ih =>
    have ne : dotParts cs ≠ [] := by
      cases cs with
      | nil => simp [dotParts]
      | cons d ds =>
        simp only [dotParts]
        split
        · simp
        · split <;> simp
    obtain ⟨part, parts, eq⟩ := List.exists_cons_of_ne_nil ne
    simp only [dotParts]
    rw [eq] at ih ⊢
    split
    · next dot =>
      subst dot
      simpa [List.intercalate] using ih
    · cases parts with
      | nil => simpa [List.intercalate] using ih
      | cons next rest => simpa [List.intercalate] using ih

end TemplateCatalog.Item
