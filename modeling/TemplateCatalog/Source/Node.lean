import TemplateCatalog.Json.Value

/-!
# Nodes of a source document

The tree that a source document is read into before anything is known about what it describes.
Both notations give this tree. What a scalar means depends on what is asked of it: the text `1`
is a count to a field that wants a count and a text to a field that wants a text. A scalar
therefore carries its answer to every question a record can ask.

A reference stands for the node that an anchor marks elsewhere in the document. References may
form cycles, so nothing follows them without a bound.
-/

namespace TemplateCatalog.Source

/-- Whether a scalar counts as a value for a field that may be left out. -/
inductive Presence where
  /-- The scalar is a spelling of the absent value. -/
  | absent
  /-- The scalar is a value. -/
  | present
  /-- The scalar claims to be absent and is not spelled so. -/
  | malformed
  deriving DecidableEq, Repr

/-- A scalar, as its answers to what may be asked of it. -/
structure Scalar where
  /-- The scalar as a text. -/
  text : Option String
  /-- The scalar as a truth value. -/
  flag : Option Bool
  /-- The scalar as a natural number of 64 bits. -/
  count : Option Nat
  /-- The scalar as a value that may be absent. -/
  presence : Presence
  /-- The scalar as an untyped value. -/
  value : Option Json.Value
  /-- The scalar as the name of one of several variants. -/
  variant : Option String
  /-- The scalar may stand for an empty list or an empty mapping. -/
  blank : Bool

/-- A node of a source document. -/
inductive Node where
  /-- A scalar. -/
  | scalar (s : Scalar)
  /-- A list, and whether it carries a tag of its own. -/
  | sequence (tagged : Bool) (items : List Node)
  /-- A mapping, and whether it carries a tag of its own. -/
  | mapping (tagged : Bool) (entries : List (Node × Node))
  /-- The node that an anchor marks. -/
  | reference (anchor : Nat)

namespace Scalar

/-- A scalar that is the absent value. -/
def null : Scalar where
  text := none
  flag := none
  count := none
  presence := .absent
  value := some .null
  variant := none
  blank := false

/-- A scalar that is a truth value and nothing else. -/
def ofBool (b : Bool) : Scalar where
  text := none
  flag := some b
  count := none
  presence := .present
  value := some (.bool b)
  variant := none
  blank := false

/-- A scalar that is a number and nothing else, or a numeral beyond all numbers. -/
def ofNumber (number : Option Json.Number) : Scalar where
  text := none
  flag := none
  count :=
    match number with
    | some (.integer n) => if 0 ≤ n then some n.toNat else none
    | _ => none
  presence := .present
  value := number.map .number
  variant := none
  blank := false

/-- A scalar that is a text and nothing else, or one that cannot be written as a text. -/
def ofText (text : Option String) : Scalar where
  text := text
  flag := none
  count := none
  presence := .present
  value := text.map .string
  variant := text
  blank := false

/-- The scalar of an empty document. -/
def void : Scalar where
  text := none
  flag := none
  count := none
  presence := .absent
  value := some .null
  variant := none
  blank := true

end Scalar

mutual

/-- The node of an untyped value. -/
def Node.ofValue : Json.Value → Node
  | .null => .scalar .null
  | .bool b => .scalar (.ofBool b)
  | .number n => .scalar (.ofNumber (some n))
  | .string s => .scalar (.ofText (some s))
  | .array items => .sequence false (Node.ofItems items)
  | .object fields => .mapping false (Node.ofFields fields)

/-- The nodes of a list of values. -/
def Node.ofItems : List Json.Value → List Node
  | [] => []
  | item :: items => Node.ofValue item :: Node.ofItems items

/-- The entries of the fields of an object. -/
def Node.ofFields : List (String × Json.Value) → List (Node × Node)
  | [] => []
  | (name, value) :: fields =>
    (.scalar (.ofText (some name)), Node.ofValue value) :: Node.ofFields fields

end

end TemplateCatalog.Source
