/-!
# Reading decimals

Floating point numbers from decimal digits, in two ways. `nearest` rounds the decimal once, to the
nearest number. `scaled` converts the digits and then scales by powers of ten, each step rounded:
the value that the JSON reader gives, which may differ from the nearest one in the last place.
-/

namespace TemplateCatalog.Decimal

/-- The floating point number nearest to `digits * 10 ^ exponent`, or `none` if that is beyond the
finite numbers. -/
def nearest? (digits : Nat) (exponent : Int) : Option Float :=
  let leading : Int := (toString digits).length + exponent
  if digits = 0 ∨ leading < -330 then some 0
  else if 310 < leading then none
  else
    let x :=
      if 0 ≤ exponent then Float.ofScientific digits false exponent.toNat
      else Float.ofScientific digits true (-exponent).toNat
    if x.isInf then none else some x

/-- The floating point number of a power of ten. -/
def powerOfTen (n : Nat) : Float :=
  Float.ofScientific 1 false n

/-- Divide by `10 ^ n`, in steps of at most `10 ^ 308`. -/
def scaleDown (x : Float) (n : Nat) : Float :=
  if n ≤ 308 then x / powerOfTen n
  else if x == 0 then x
  else scaleDown (x / powerOfTen 308) (n - 308)
termination_by n
decreasing_by omega

/-- The digits as a floating point number, scaled by `10 ^ exponent`, or `none` if the result is
beyond the finite numbers. -/
def scaled? (digits : Nat) (exponent : Int) : Option Float :=
  let x := Float.ofNat digits
  if exponent < 0 then some (scaleDown x exponent.natAbs)
  else if exponent ≤ 308 then
    let y := x * powerOfTen exponent.toNat
    if y.isInf then none else some y
  else if x == 0 then some x
  else none

end TemplateCatalog.Decimal
