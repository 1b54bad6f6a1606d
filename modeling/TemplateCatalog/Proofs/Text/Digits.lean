import Mathlib.Data.Nat.Digits.Lemmas
import TemplateCatalog.Text.Digit

/-!
# Numbers spelled by digits

The number that digits spell, the first digit first, against the one of the library, which takes the
last digit first.

Main statements:

* `Text.isDigit_iff`: which characters are digits.
* `Text.ofDigits_eq`: the same digits with the last one first.
* `Text.ofDigits_append`, `Text.ofDigits_lt`: digits behind others, and how large a number can be.
-/

namespace TemplateCatalog.Text

/-- A digit has one of ten numbers. -/
theorem isDigit_iff {c : Char} : c.isDigit = true ↔ 48 ≤ c.toNat ∧ c.toNat ≤ 57 := by
  simp only [Char.isDigit, Bool.and_eq_true, decide_eq_true_eq, UInt32.le_iff_toNat_le, ge_iff_le]
  rfl

/-- The same digits with the last one first. -/
theorem ofDigits_eq (base : Nat) (digits : List Nat) :
    ofDigits base digits = Nat.ofDigits base digits.reverse := by
  induction digits using List.reverseRecOn with
  | nil => rfl
  | append_singleton digits d ih =>
    rw [List.reverse_append, List.reverse_singleton, List.singleton_append, Nat.ofDigits_cons, ← ih,
      ofDigits, ofDigits, List.foldl_append, List.foldl_cons, List.foldl_nil, Nat.add_comm,
      Nat.mul_comm]

theorem ofDigits_append (base : Nat) (digits more : List Nat) :
    ofDigits base (digits ++ more) =
      ofDigits base digits * base ^ more.length + ofDigits base more := by
  rw [ofDigits_eq, ofDigits_eq, ofDigits_eq, List.reverse_append, Nat.ofDigits_append,
    List.length_reverse, Nat.add_comm, Nat.mul_comm]

theorem ofDigits_lt {digits : List Nat} (hdigits : ∀ d ∈ digits, d < 10) :
    ofDigits 10 digits < 10 ^ digits.length := by
  rw [ofDigits_eq, ← List.length_reverse]
  exact Nat.ofDigits_lt_base_pow_length (by decide) fun d hd => hdigits d (List.mem_reverse.mp hd)

end TemplateCatalog.Text
