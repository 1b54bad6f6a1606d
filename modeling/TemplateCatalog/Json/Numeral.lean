import TemplateCatalog.Decimal.Reading
import TemplateCatalog.Json.Value
import TemplateCatalog.Power
import TemplateCatalog.Text.Digit

/-!
# Numerals

Numbers as JSON writes them, and the numbers they stand for. An integer of 64 bits stands for
itself. Any other numeral is a floating point number: the leading digits that fit into 64 bits,
scaled by a power of ten. A numeral beyond the finite numbers stands for none.
-/

namespace TemplateCatalog.Json

/-- A number as it is written. -/
structure Numeral where
  /-- A minus sign stands in front. -/
  negative : Bool
  /-- The digits before the point. -/
  whole : List Nat
  /-- The digits after the point; none without a point. -/
  fraction : List Nat
  /-- The exponent, with its sign. -/
  exponent : Option (Bool × List Nat)

/-- Append digits to a number as long as it fits into 64 bits, and return the digits left. -/
def takeDigits : Nat → List Nat → Nat × List Nat
  | n, [] => (n, [])
  | n, d :: ds => if n * 10 + d < twoTo 64 then takeDigits (n * 10 + d) ds else (n, d :: ds)

namespace Numeral

/-- The greatest exponent that is read as a number. -/
def exponentLimit : Nat :=
  twoTo 31 - 1

/-- The numeral has neither a point nor an exponent. -/
def isWhole (numeral : Numeral) : Bool :=
  numeral.fraction.isEmpty && numeral.exponent.isNone

/-- The numeral as a floating point number. -/
def float? (numeral : Numeral) : Option Float :=
  let (high, dropped) := takeDigits 0 numeral.whole
  let (digits, unread) := takeDigits high numeral.fraction
  let shift : Int := dropped.length - (numeral.fraction.length - unread.length : Nat)
  let size : Option Float :=
    match numeral.exponent with
    | none => Decimal.scaled? digits shift
    | some (down, exponent) =>
      let n := Text.ofDigits 10 exponent
      if n ≤ exponentLimit then Decimal.scaled? digits (if down then shift - n else shift + n)
      else if digits = 0 ∨ down then some 0
      else none
  size.map fun x => if numeral.negative then -x else x

/-- The number that the numeral stands for. -/
def number? (numeral : Numeral) : Option Number :=
  let (digits, dropped) := takeDigits 0 numeral.whole
  if numeral.isWhole && dropped.isEmpty then
    if !numeral.negative then some (.integer digits)
    else if 0 < digits ∧ digits ≤ twoTo 63 then some (.integer (-digits))
    else some (.float (-Float.ofNat digits))
  else numeral.float?.map .float

end Numeral

end TemplateCatalog.Json
