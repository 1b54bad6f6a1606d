import TemplateCatalog.Template.Arguments
import TemplateCatalog.Template.Operator
import TemplateCatalog.Text.LetterCase

/-!
# Tests

The tests that conditions apply to values.
-/

namespace TemplateCatalog.Template.Test

/-- The first value is divisible by the second one. -/
def divides (a b : Value) : Bool :=
  match Value.numbers? true a b with
  | some (.ints m n) => n != 0 && m % n == 0
  | some (.floats x y) => Decimal.remainder x y == 0
  | none => false

/-- The value is an integer. -/
def isInteger : Value → Bool
  | .int _ _ => true
  | _ => false

/-- The values are one and the same: lists and mappings only if they have one mark, and numbers
only if both or none are integers. -/
def identical : Value → Value → Bool
  | .list f _, .list g _ => f.isOne g
  | .map f _, .map g _ => f.isOne g
  | a, b => a.kind == b.kind && isInteger a == isInteger b && a.same b

/-- A test of the subject alone. -/
def ofValue (test : Value → Bool) : Taking Bool := do
  return test (← Taking.value)

/-- A test of the subject and another value. -/
def ofValues (test : Value → Value → Bool) : Taking Bool := do
  let subject ← Taking.value
  return test subject (← Taking.value)

/-- A test of the text that the subject is. -/
def ofText (test : String → Bool) : Taking Bool := do
  return test (← Taking.converted Value.asText)

/-- A test of the texts of the subject and another value. -/
def ofTexts (test : List Char → List Char → Bool) : Taking Bool := do
  let subject ← Taking.text
  return test subject.toList (← Taking.text).toList

/-- The value is a floating point number. -/
def isFloat : Value → Bool
  | .float _ => true
  | _ => false

/-- The remainder of the value as an integer is the given one. -/
def hasParity (parity : Int) (value : Value) : Bool :=
  value.int?.any fun n => n % 2 == parity

/-- The test on values under a name. -/
def simple? (name : String) : Option (Taking Bool) :=
  match name with
  | "defined" => some (ofValue (!·.isUndefined))
  | "undefined" => some (ofValue (·.isUndefined))
  | "none" => some (ofValue (·.kind == .none))
  | "boolean" => some (ofValue (·.kind == .bool))
  | "true" => some (ofValue fun value => value.kind == .bool && value.isTrue)
  | "false" => some (ofValue fun value => value.kind == .bool && !value.isTrue)
  | "number" => some (ofValue (·.kind == .number))
  | "integer" | "int" => some (ofValue isInteger)
  | "float" => some (ofValue isFloat)
  | "string" => some (ofValue (·.kind == .text))
  | "sequence" => some (ofValue (·.kind == .list))
  | "mapping" => some (ofValue (·.kind == .map))
  | "iterable" => some (ofValue (·.items?.isSome))
  | "safe" | "escaped" => some (ofValue Value.isSafe)
  | "odd" => some (ofValue (hasParity 1))
  | "even" => some (ofValue (hasParity 0))
  | "divisibleby" => some (ofValues divides)
  | "lower" => some (ofText (·.toList.all Text.isLower))
  | "upper" => some (ofText (·.toList.all Text.isUpper))
  | "startingwith" => some (ofTexts fun s part => part.isPrefixOf s)
  | "endingwith" => some (ofTexts fun s part => part.isSuffixOf s)
  | "sameas" => some (ofValues identical)
  | "eq" | "equalto" | "==" => some (ofValues Value.same)
  | "ne" | "!=" => some (ofValues (!Value.same · ·))
  | "lt" | "lessthan" | "<" => some (ofValues (Value.order · · == .lt))
  | "le" | "<=" => some (ofValues (Value.order · · != .gt))
  | "gt" | "greaterthan" | ">" => some (ofValues (Value.order · · == .gt))
  | "ge" | ">=" => some (ofValues (Value.order · · != .lt))
  | "in" => some (ofValues fun value whole =>
      match value.isWithin whole with
      | .ok found => found
      | .error _ => false)
  | _ => none

end TemplateCatalog.Template.Test
