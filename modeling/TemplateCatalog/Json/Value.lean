import TemplateCatalog.Fields

/-!
# Values of documents

The untyped values that documents, argument defaults and render arguments are made of. Integers
and floating point numbers are kept apart, as their written forms are.
-/

namespace TemplateCatalog.Json

/-- A number: an integer of 64 bits, signed or unsigned, or a finite floating point number. -/
inductive Number where
  /-- An integer from `-2 ^ 63` to `2 ^ 64 - 1`. -/
  | integer (n : Int)
  /-- A finite floating point number. -/
  | float (x : Float)
  deriving DecidableEq, Inhabited

/-- A value of a document. -/
inductive Value where
  /-- The absent value. -/
  | null
  /-- A truth value. -/
  | bool (b : Bool)
  /-- A number. -/
  | number (n : Number)
  /-- A text. -/
  | string (s : String)
  /-- A list of values. -/
  | array (items : List Value)
  /-- An object, its fields in ascending order of their names. -/
  | object (fields : List (String × Value))
  deriving Inhabited

namespace Value

/-- The value of an integer. -/
def int (n : Int) : Value :=
  .number (.integer n)

/-- The value of a natural number. -/
def nat (n : Nat) : Value :=
  .number (.integer n)

/-- A list of texts as a value. -/
def strings (texts : List String) : Value :=
  .array (texts.map .string)

/-- The value is `null`. -/
def isNull : Value → Bool
  | .null => true
  | _ => false

/-- The value is a number. -/
def isNumber : Value → Bool
  | .number _ => true
  | _ => false

/-- The text that the value is, if it is one. -/
def string? : Value → Option String
  | .string s => some s
  | _ => none

/-- The fields of the value, if it is an object. -/
def fields? : Value → Option (Fields Value)
  | .object fields => some fields
  | _ => none

/-- The value under a name, if the value is an object with that name. -/
def field? (name : String) : Value → Option Value
  | .object fields => Fields.find? name fields
  | _ => none

/-- An object from pairs in any order. -/
def ofPairs (pairs : List (String × Value)) : Value :=
  .object (Fields.ofPairs pairs)

mutual

/-- The two values are the same. -/
def same : Value → Value → Bool
  | .null, .null => true
  | .bool a, .bool b => a == b
  | .number a, .number b => a == b
  | .string a, .string b => a == b
  | .array a, .array b => sameItems a b
  | .object a, .object b => sameFields a b
  | _, _ => false

/-- The two lists hold the same values in the same order. -/
def sameItems : List Value → List Value → Bool
  | [], [] => true
  | a :: as, b :: bs => same a b && sameItems as bs
  | _, _ => false

/-- The two lists of fields hold the same values under the same names. -/
def sameFields : List (String × Value) → List (String × Value) → Bool
  | [], [] => true
  | (k, a) :: as, (l, b) :: bs => k == l && same a b && sameFields as bs
  | _, _ => false

end

end Value

end TemplateCatalog.Json
