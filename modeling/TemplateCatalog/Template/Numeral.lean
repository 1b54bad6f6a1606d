import TemplateCatalog.Decimal.Reading
import TemplateCatalog.Power
import TemplateCatalog.Text.Digit

/-!
# Numerals

Numbers as texts: the numbers written in templates, which may have underscores between their
digits, and the numbers that texts are converted to.

Main statement: `int?_bounds`, the integers that texts are converted to take at most 128 bits.
-/

namespace TemplateCatalog.Template

open Text (digits?)

/-- A sign in front of a numeral: whether it is a minus, and what follows. -/
def splitSign : List Char → Bool × List Char
  | '-' :: cs => (true, cs)
  | '+' :: cs => (false, cs)
  | cs => (false, cs)

/-- An integer of 128 bits with an optional sign. -/
def int? (s : String) : Option Int := do
  let (negative, cs) := splitSign s.toList
  let size ← digits? 10 cs
  if negative then (if size ≤ twoTo 127 then some (-size) else none)
  else if size < twoTo 127 then some size else none

/-- The number of a decimal without a sign; beyond the finite numbers it is infinite. -/
def decimal? (cs : List Char) : Option Float := do
  let whole := cs.takeWhile Char.isDigit
  let rest := cs.dropWhile Char.isDigit
  let (fraction, rest) :=
    match rest with
    | '.' :: rest => (rest.takeWhile Char.isDigit, rest.dropWhile Char.isDigit)
    | rest => ([], rest)
  let size ← digits? 10 (whole ++ fraction)
  let exponent : Int ←
    match rest with
    | [] => some 0
    | c :: rest =>
      if c = 'e' ∨ c = 'E' then
        let (negative, cs) := splitSign rest
        (digits? 10 cs).map fun n => if negative then -(n : Int) else n
      else none
  return (Decimal.nearest? size (exponent - fraction.length)).getD (1 / 0)

/-- A floating point number with an optional sign, spelled out or in decimals. -/
def float? (s : String) : Option Float := do
  let (negative, cs) := splitSign s.toList
  let word := String.ofList (cs.map Char.toLower)
  let size ←
    if word = "inf" ∨ word = "infinity" then some (1 / 0)
    else if word = "nan" then some (0 / 0)
    else decimal? cs
  return if negative then -size else size

/-- The integers that texts are converted to take at most 128 bits. -/
theorem int?_bounds {s : String} {n : Int} (h : int? s = some n) :
    -twoTo 127 ≤ n ∧ n < twoTo 127 := by
  have positive := twoTo_pos 127
  simp only [int?, Option.bind_eq_bind, Option.bind_eq_some_iff] at h
  obtain ⟨size, _, h⟩ := h
  split at h
  · split at h <;> simp only [Option.some.injEq, reduceCtorEq] at h
    omega
  · split at h <;> simp only [Option.some.injEq, reduceCtorEq] at h
    omega

end TemplateCatalog.Template
