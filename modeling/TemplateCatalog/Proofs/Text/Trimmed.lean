import Mathlib.Data.List.TakeWhile
import TemplateCatalog.Text.Blank

/-!
# Trimmed texts

What is left of a text when the blank space around it is dropped.

The module introduces:

* `Text.IsTrimmed`: a text without blank characters at either end.

Main statements:

* `Text.isTrimmed_trim`: no end of a trimmed text is blank.
* `Text.trim_eq_self_iff`: trimming leaves a text alone exactly if no end of it is blank.
* `Text.trim_eq_empty_iff`: nothing is left exactly of a blank text.
* `Text.exists_blanks`, `Text.trimChars_append`: what is dropped are the blank characters around
  what is left.
-/

namespace TemplateCatalog.Text

/-- Neither end of the text is blank. -/
structure IsTrimmed (s : String) : Prop where
  first : ∀ c ∈ s.toList.head?, isBlank c = false
  last : ∀ c ∈ s.toList.getLast?, isBlank c = false

/-- The first character that is left after dropping blanks is not blank. -/
theorem isBlank_of_head?_dropBlanks {cs : List Char} {c : Char}
    (hfirst : c ∈ (dropBlanks cs).head?) : isBlank c = false := by
  have hhead := List.head?_dropWhile_not isBlank cs
  rw [dropBlanks, Option.mem_def] at hfirst
  rw [hfirst] at hhead
  exact hhead

theorem isTrimmed_trim (s : String) : IsTrimmed (trim s) := by
  rw [trim]
  constructor
  · intro c hfirst
    rw [String.toList_ofList, trimChars, List.head?_reverse] at hfirst
    -- What is dropped at the end leaves the first character in its place.
    obtain ⟨dropped, hsplit⟩ : dropBlanks (dropBlanks s.toList).reverse <:+
        (dropBlanks s.toList).reverse := List.dropWhile_suffix isBlank
    have hlast := congrArg List.getLast? hsplit
    rw [List.getLast?_append, Option.mem_def.mp hfirst, Option.some_or,
      List.getLast?_reverse] at hlast
    exact isBlank_of_head?_dropBlanks hlast.symm
  · intro c hlast
    rw [String.toList_ofList, trimChars, List.getLast?_reverse] at hlast
    exact isBlank_of_head?_dropBlanks hlast

/-- A trimmed text has a character that is not blank, if it has any. -/
theorem IsTrimmed.isBlankText_eq_false {s : String} (htrimmed : IsTrimmed s) (hne : s ≠ "") :
    isBlankText s = false := by
  obtain ⟨c, hfirst⟩ : ∃ c, s.toList.head? = some c := by
    rw [← Option.isSome_iff_exists, List.isSome_head?, ne_eq, String.toList_eq_nil_iff]
    exact hne
  rw [isBlankText, List.all_eq_false]
  exact ⟨c, List.mem_of_head? hfirst, by simp [htrimmed.first c hfirst]⟩

/-- Trimming leaves a text alone exactly if no end of it is blank. -/
theorem trim_eq_self_iff {s : String} : trim s = s ↔ IsTrimmed s := by
  constructor
  · intro hsame
    exact hsame ▸ isTrimmed_trim s
  · intro htrimmed
    rw [trim, trimChars_eq_self htrimmed.first htrimmed.last, String.ofList_toList]

/-- Nothing is left of a text exactly if it is blank. -/
theorem trim_eq_empty_iff {s : String} : trim s = "" ↔ isBlankText s = true := by
  rw [trim, ← String.toList_eq_nil_iff, String.toList_ofList, trimChars, List.reverse_eq_nil_iff,
    isBlankText, List.all_eq_true, ← List.dropWhile_eq_nil_iff]
  show dropBlanks (dropBlanks s.toList).reverse = [] ↔ dropBlanks s.toList = []
  constructor
  · intro hrest
    cases hstart : dropBlanks s.toList with
    | nil => rfl
    | cons c cs =>
      -- What is left at the start begins with a character that is not blank.
      have hfirst : c ∈ (dropBlanks s.toList).head? := by simp [hstart]
      have hkept : isBlank c = false := isBlank_of_head?_dropBlanks hfirst
      have hdropped : isBlank c = true :=
        List.dropWhile_eq_nil_iff.mp hrest c (by simp [hstart])
      rw [hkept] at hdropped
      cases hdropped
  · intro hnone
    rw [hnone]
    rfl

/-- Blank characters are dropped, up to the first one that is not blank. -/
theorem dropBlanks_append {blanks rest : List Char} (hblanks : ∀ c ∈ blanks, isBlank c = true)
    (hrest : ∀ c ∈ rest.head?, isBlank c = false) : dropBlanks (blanks ++ rest) = rest := by
  rw [dropBlanks, List.dropWhile_append_of_pos hblanks]
  exact dropBlanks_eq_self_iff.mpr hrest

/-- What is dropped at either end is blank. -/
theorem exists_blanks (cs : List Char) : ∃ before after, cs = before ++ trimChars cs ++ after ∧
    (∀ c ∈ before, isBlank c = true) ∧ ∀ c ∈ after, isBlank c = true := by
  let back := (dropBlanks cs).reverse.takeWhile isBlank
  refine ⟨cs.takeWhile isBlank, back.reverse, ?_, ?_, ?_⟩
  · have hback : dropBlanks cs = trimChars cs ++ back.reverse := by
      rw [trimChars, ← List.reverse_append, eq_comm, List.reverse_eq_iff]
      exact List.takeWhile_append_dropWhile
    rw [List.append_assoc, ← hback]
    exact List.takeWhile_append_dropWhile.symm
  · intro c hc
    exact List.mem_takeWhile_imp hc
  · intro c hc
    exact List.mem_takeWhile_imp (List.mem_reverse.mp hc)

/-- Blank characters around a text whose ends are not blank are dropped, and nothing else. -/
theorem trimChars_append {before kept after : List Char} (hbefore : ∀ c ∈ before, isBlank c = true)
    (hafter : ∀ c ∈ after, isBlank c = true) (hne : kept ≠ [])
    (hfirst : ∀ c ∈ kept.head?, isBlank c = false)
    (hlast : ∀ c ∈ kept.getLast?, isBlank c = false) :
    trimChars (before ++ kept ++ after) = kept := by
  have hstart : dropBlanks (before ++ (kept ++ after)) = kept ++ after := by
    apply dropBlanks_append hbefore
    obtain ⟨d, ds, rfl⟩ := List.exists_cons_of_ne_nil hne
    exact hfirst
  have hend : dropBlanks (after.reverse ++ kept.reverse) = kept.reverse := by
    apply dropBlanks_append
    · intro c hc
      exact hafter c (List.mem_reverse.mp hc)
    · rw [List.head?_reverse]
      exact hlast
  rw [List.append_assoc, trimChars, hstart, List.reverse_append, hend, List.reverse_reverse]

end TemplateCatalog.Text
