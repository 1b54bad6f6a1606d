import TemplateCatalog.Template.Arguments
import TemplateCatalog.Template.Numeral
import TemplateCatalog.Template.Operator

/-!
# Filters on numbers

Filters that convert their subject to a number or change a number.
-/

namespace TemplateCatalog.Template.Filter

/-- The integer nearest to the given one that takes 128 bits. -/
def clampInt (n : Int) : Int :=
  max (-twoTo 127) (min (twoTo 127 - 1) n)

/-- The integer that a floating point number becomes when its fraction is dropped. -/
def wholeOf (x : Float) : Int :=
  if x.isInf then (if x < 0 then -twoTo 127 else twoTo 127 - 1) else clampInt (Decimal.wholePart x)

/-- The value as an integer. -/
def whole : Value → Except Fault Value
  | .undefined | .none => .ok (.integer 0)
  | .bool b => .ok (.integer (if b then 1 else 0))
  | .int n unsigned => .ok (.int n unsigned)
  | .float x => .ok (.integer (wholeOf x))
  | .text s _ =>
    match int? s, float? s with
    | some n, _ => .ok (.integer n)
    | none, some x => .ok (.integer (wholeOf x))
    | none, none => .error .invalidOperation
  | _ => .error .invalidOperation

/-- The value as a floating point number. -/
def floating : Value → Except Fault Value
  | .undefined | .none => .ok (.float 0)
  | .text s _ =>
    match float? s with
    | some x => .ok (.float x)
    | none => .error .invalidOperation
  | value =>
    match value.float? false with
    | some x => .ok (.float x)
    | none => .error .invalidOperation

/-- The number without its sign. -/
def magnitude : Value → Except Fault Value
  | .int n unsigned =>
    if n = -twoTo 127 then .error .invalidOperation
    else .ok (.int n.natAbs unsigned)
  | .float x => .ok (.float x.abs)
  | _ => .error .invalidOperation

/-- The power of ten, which is infinite or zero where it is no finite number. -/
def powerOfTen (n : Int) : Float :=
  if 400 < n then 1 / 0
  else if n < -400 then 0
  else if 0 ≤ n then Decimal.powerOfTen n.toNat
  else 1 / Decimal.powerOfTen n.natAbs

/-- The number rounded to some places after the point; a half is rounded away from zero. -/
def round (places : Int) : Value → Except Fault Value
  | .int n unsigned => .ok (.int n unsigned)
  | .float x =>
    let scale := powerOfTen places
    .ok (.float ((scale * x).round / scale))
  | _ => .error .invalidOperation

/-- A number of decimal places. -/
def asPlaces (value : Value) : Except Fault Int := do
  let n ← value.asInt
  if -twoTo 31 ≤ n ∧ n < twoTo 31 then return n else throw .invalidOperation

/-- The filter on numbers under a name. -/
def number? (name : String) : Option (Taking Value) :=
  match name with
  | "int" => some (Taking.only whole)
  | "float" => some (Taking.only floating)
  | "abs" => some (Taking.only magnitude)
  | "round" => some do
    let subject ← Taking.value
    let places ← Taking.optional asPlaces
    Taking.done
    liftM (round (places.getD 0) subject)
  | _ => none

end TemplateCatalog.Template.Filter
