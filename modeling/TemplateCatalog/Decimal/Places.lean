import TemplateCatalog.Decimal.Layout

/-!
# Decimals with a number of places

Floating point numbers rounded to so many places after the point, or to so many digits. The
rounding is exact, and a tie goes to the even neighbour.

Main statement: `roundQuotient_near`, a rounded quotient is at most one half away.
-/

namespace TemplateCatalog.Decimal

/-- The natural number nearest to a quotient; of two that are equally near, the even one. -/
def roundQuotient (n d : Nat) : Nat :=
  if 2 * (n % d) < d ∨ (2 * (n % d) = d ∧ n / d % 2 = 0) then n / d else n / d + 1

/-- A rounded quotient is at most one half away. -/
theorem roundQuotient_near (n : Nat) {d : Nat} (positive : 0 < d) :
    2 * n ≤ 2 * (d * roundQuotient n d) + d ∧ 2 * (d * roundQuotient n d) ≤ 2 * n + d := by
  have whole := Nat.div_add_mod n d
  have rest := Nat.mod_lt n positive
  simp only [roundQuotient]
  split
  · omega
  · rw [Nat.mul_add, Nat.mul_one]
    omega

/-- The number times a power of ten, rounded to a natural number. -/
def Binary.shifted (x : Binary) (places : Int) : Nat :=
  roundQuotient (x.mantissa * twoTo x.exponent.toNat * tenTo places.toNat)
    (twoTo (-x.exponent).toNat * tenTo (-places).toNat)

/-- The number rounded to so many places behind its leading digit. -/
def Binary.rounded (x : Binary) (places : Nat) : Digits :=
  let leading : Int := if x.mantissa = 0 then 0 else x.scale - 1
  let digits := x.shifted (places - leading)
  -- rounding up to a power of ten moves the leading digit
  if digits = tenTo (places + 1) then ⟨tenTo places, leading + 1 - places⟩
  else ⟨digits, leading - places⟩

/-- A natural number of units of the last of some places, with the point in its place. -/
def withPoint (places units : Nat) : String :=
  let digits := toString units
  let digits := zeros (places + 1 - digits.length) ++ digits
  let whole := digits.length - places
  if places = 0 then digits
  else
    String.ofList (digits.toList.take whole) ++ "." ++ String.ofList (digits.toList.drop whole)

/-- The size of the number with so many places after the point. -/
def fixedText (places : Nat) (x : Float) : String :=
  withPoint places ((Binary.ofBits x.toBits).shifted places)

/-- The size of the number with one digit before the point, so many after it, and an exponent. -/
def scientificText (places : Nat) (x : Float) : String :=
  let d := (Binary.ofBits x.toBits).rounded places
  withPoint places d.digits ++ "e" ++ ExponentStyle.render .signed (d.exponent + places)

/-- The text of a decimal without zeros at the end of its fraction. -/
def dropFractionZeros (s : String) : String :=
  if s.toList.contains '.' then
    let kept := s.toList.reverse.dropWhile (· = '0')
    String.ofList (if kept.head? = some '.' then kept.drop 1 else kept).reverse
  else s

/-- The size of the number in so many digits, with an exponent where its leading digit stands far
from the point; zeros at the end are dropped unless they are wanted. -/
def generalText (digits : Nat) (keepZeros : Bool) (x : Float) : String :=
  let digits := max digits 1
  let d := (Binary.ofBits x.toBits).rounded (digits - 1)
  let leading := d.exponent + (digits - 1 : Nat)
  let cut (s : String) : String := if keepZeros then s else dropFractionZeros s
  if -4 ≤ leading ∧ leading < digits then cut (fixedText ((digits : Int) - 1 - leading).toNat x)
  else
    cut (withPoint (digits - 1) d.digits) ++ "e" ++ ExponentStyle.render .signed leading

end TemplateCatalog.Decimal
