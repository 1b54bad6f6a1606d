/-!
# Digits

Digits of bases up to sixteen, and the numbers that they spell.

Main statements:

* `hexDigit?_hexDigit`: a digit is read as the value it is written for.
* `digits?_eq_none_iff`: a text spells no number exactly if it is empty or one of its characters is
  no digit of the base.
-/

namespace TemplateCatalog.Text

/-- The value of a digit of base sixteen, in either letter case. -/
def hexDigit? (c : Char) : Option Nat :=
  if '0' ≤ c ∧ c ≤ '9' then some (c.toNat - 48)
  else if 'a' ≤ c ∧ c ≤ 'f' then some (c.toNat - 87)
  else if 'A' ≤ c ∧ c ≤ 'F' then some (c.toNat - 55)
  else none

/-- The digit of base sixteen with a value below sixteen, in lower case. -/
def hexDigit (n : Nat) : Char :=
  if n < 10 then Char.ofNat (48 + n) else Char.ofNat (87 + n)

/-- The number that digits of a base spell, the digits of a list first one first. -/
def ofDigits (base : Nat) (digits : List Nat) : Nat :=
  digits.foldl (fun n d => n * base + d) 0

/-- The value of a digit of a base. -/
def digit? (base : Nat) (c : Char) : Option Nat :=
  (hexDigit? c).filter (· < base)

/-- The number that a text of digits of a base spells. -/
def digits? (base : Nat) (cs : List Char) : Option Nat :=
  if cs.isEmpty then none else (cs.mapM (digit? base)).map (ofDigits base)

/-- A digit is read as the value it is written for. -/
theorem hexDigit?_hexDigit : ∀ n < 16, hexDigit? (hexDigit n) = some n := by
  decide

/-- A text spells no number exactly if it is empty or one of its characters is no digit of its
base. -/
theorem digits?_eq_none_iff {base : Nat} {cs : List Char} :
    digits? base cs = none ↔ cs = [] ∨ ∃ c ∈ cs, digit? base c = none := by
  have all (cs : List Char) :
      cs.mapM (digit? base) = none ↔ ∃ c ∈ cs, digit? base c = none := by
    induction cs with
    | nil => simp
    | cons c cs ih =>
      simp only [List.mem_cons, exists_eq_or_imp, ← ih, List.mapM_cons]
      cases digit? base c <;> cases cs.mapM (digit? base) <;> simp
  cases cs with
  | nil => simp [digits?]
  | cons c cs =>
    rw [digits?, List.isEmpty_cons, if_neg Bool.false_ne_true, Option.map_eq_none_iff, all]
    simp

end TemplateCatalog.Text
