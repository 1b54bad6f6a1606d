import Mathlib.Data.List.TakeWhile

/-!
# Texts with a mark

The first mark in a text, and what stands before it and behind it.

Main statements:

* `Text.cut_append_mark`: a text is cut at its first mark.
* `Text.eq_append_of_dropWhile`: the parts of a text that is cut at a mark.
-/

namespace TemplateCatalog.Text

variable {mark : Char} {cs front rest : List Char}

/-- A text is cut where the first mark stands. -/
theorem cut_append_mark (hfront : mark ∉ front) (rest : List Char) :
    (front ++ mark :: rest).takeWhile (· ≠ mark) = front ∧
      (front ++ mark :: rest).dropWhile (· ≠ mark) = mark :: rest := by
  have hkept : ∀ c ∈ front, decide (c ≠ mark) = true := fun c hc =>
    decide_eq_true fun hmark => hfront (hmark ▸ hc)
  constructor
  · rw [List.takeWhile_append_of_pos hkept, List.takeWhile_cons_of_neg (by simp), List.append_nil]
  · rw [List.dropWhile_append_of_pos hkept, List.dropWhile_cons_of_neg (by simp)]

/-- Where characters are left, the first one of them is the mark. -/
theorem eq_append_of_dropWhile {c : Char} (hleft : cs.dropWhile (· ≠ mark) = c :: rest) :
    c = mark ∧ cs = cs.takeWhile (· ≠ mark) ++ mark :: rest := by
  have hmark : c = mark := by
    have hhead := List.head?_dropWhile_not (fun d => decide (d ≠ mark)) cs
    rw [hleft] at hhead
    simpa using hhead
  refine ⟨hmark, ?_⟩
  rw [← hmark, ← hleft, hmark, List.takeWhile_append_dropWhile]

/-- What stands before the first mark has none. -/
theorem mark_notMem_takeWhile (mark : Char) (cs : List Char) : mark ∉ cs.takeWhile (· ≠ mark) := by
  intro hmem
  simpa using List.mem_takeWhile_imp hmem

end TemplateCatalog.Text
