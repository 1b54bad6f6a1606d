import TemplateCatalog.Decimal.Layout

/-!
# Exact operations on floating point numbers

Operations whose results are exact, computed on the integers that a floating point number is made
of: the whole part, the remainder of a division, and the comparison with an integer.

Main statement: `remainder_lt`, the remainder of a division is less than the divisor.
-/

namespace TemplateCatalog.Decimal

/-- The whole part of a finite number, and zero for what is not finite. -/
def wholePart (x : Float) : Int :=
  if x.isFinite then
    let b := Binary.ofBits x.toBits
    let size := b.mantissa * twoTo b.exponent.toNat / twoTo (-b.exponent).toNat
    if isNegative x then -(size : Int) else size
  else 0

/-- The number is exactly the given integer. -/
def isExactly (x : Float) (n : Int) : Bool :=
  let b := Binary.ofBits x.toBits
  x.isFinite && (n == 0 || (decide (n < 0) == isNegative x)) &&
    b.mantissa * twoTo b.exponent.toNat == n.natAbs * twoTo (-b.exponent).toNat

/-- How often the power of two with a given exponent fits into a number. -/
def Binary.count (unit : Int) (x : Binary) : Nat :=
  x.mantissa * twoTo (x.exponent - unit).toNat

/-- The power of two that two numbers are multiples of. -/
def Binary.commonUnit (x y : Binary) : Int :=
  min x.exponent y.exponent

/-- What is left of a number after taking another one from it as often as that fits, counted in
their common unit. -/
def Binary.remainder (x y : Binary) : Nat :=
  x.count (x.commonUnit y) % y.count (x.commonUnit y)

/-- The remainder of a division is less than the divisor. -/
theorem Binary.remainder_lt (x : Binary) {y : Binary} (positive : 0 < y.mantissa) :
    x.remainder y < y.count (x.commonUnit y) :=
  Nat.mod_lt _ (Nat.mul_pos positive (twoTo_pos _))

/-- What is left of a number after taking another one from it as often as that fits, with the
sign of the first number. -/
def remainder (x y : Float) : Float :=
  if x.isNaN || y.isNaN || x.isInf || y == 0 then 0 / 0
  else if y.isInf then x
  else
    let a := Binary.ofBits x.toBits
    let b := Binary.ofBits y.toBits
    let rest := (Float.ofNat (a.remainder b)).scaleB (a.commonUnit b)
    if isNegative x then -rest else rest

/-- The number without its fraction. -/
def truncate (x : Float) : Float :=
  if isNegative x then x.ceil else x.floor

/-- The quotient for which the remainder of the division is not negative. -/
def floorQuotient (x y : Float) : Float :=
  let quotient := truncate (x / y)
  if remainder x y < 0 then (if y > 0 then quotient - 1 else quotient + 1) else quotient

end TemplateCatalog.Decimal
