import TemplateCatalog.Json.Printer

/-!
# JSON Schema

What a schema says about a value, as far as the keywords `properties`, `required` and `type` say it.
The keywords of a schema are evaluated in the order of their names, and so are the schemas of the
properties of an object. A value that is no object has no properties and lacks none. All other
keywords are annotations here, and there are no references between schemas.

Main statements:

* `violations_object`: the violations of a schema are those of its keywords.
* `memberViolations_eq`: every property is judged by its own schema.
-/

namespace TemplateCatalog.Json.Schema

/-- A way in which a value goes against a schema. -/
inductive Violation where
  /-- The schema allows no value. -/
  | forbidden (value : Value)
  /-- The value is of none of the types. -/
  | wrongType (value : Value) (types : List String)
  /-- An object lacks a property. -/
  | missing (name : String)

/-- The message about a violation. -/
def Violation.message : Violation → String
  | .forbidden value => "False schema does not allow " ++ value.compact
  | .wrongType value [type] => value.compact ++ " is not of type " ++ quote type
  | .wrongType value types =>
    value.compact ++ " is not of types " ++ ", ".intercalate (types.map quote)
  | .missing name => quote name ++ " is a required property"

/-- The value is of the type with the given name. -/
def isOfType (value : Value) (type : String) : Bool :=
  match type, value with
  | "null", .null => true
  | "boolean", .bool _ => true
  | "number", .number _ => true
  -- A number without a fraction is an integer, however it is written.
  | "integer", .number (.integer _) => true
  | "integer", .number (.float x) => x.floor == x
  | "string", .string _ => true
  | "array", .array _ => true
  | "object", .object _ => true
  | _, _ => false

/-- What the keyword `type` says, which holds the name of a type or several of them. -/
def typeViolations (value : Value) : Value → List Violation
  | .string type => if isOfType value type then [] else [.wrongType value [type]]
  | .array names =>
    let types := names.filterMap Value.string?
    if types.any (isOfType value) then [] else [.wrongType value types]
  | _ => []

/-- What the keyword `required` says, which holds the names of properties. -/
def requiredViolations (value : Value) : Value → List Violation
  | .array names =>
    match value.fields? with
    | some fields => ((names.filterMap Value.string?).filter (!fields.has ·)).map .missing
    | none => []
  | _ => []

mutual

/-- The violations of a schema. -/
def violations : (schema value : Value) → List Violation
  | .bool false, value => [.forbidden value]
  | .object keywords, value => keywordViolations keywords value
  | _, _ => []

/-- The violations of the keywords of a schema. -/
def keywordViolations : (keywords : List (String × Value)) → Value → List Violation
  | [], _ => []
  | (keyword, argument) :: keywords, value =>
    (if keyword = "properties" then propertyViolations argument value
      else if keyword = "required" then requiredViolations value argument
      else if keyword = "type" then typeViolations value argument
      else []) ++ keywordViolations keywords value

/-- What the keyword `properties` says, which holds the schemas of properties by their names. -/
def propertyViolations : (schemas value : Value) → List Violation
  | .object schemas, .object fields => memberViolations schemas fields
  | _, _ => []

/-- The violations of the schemas of properties by the properties that are there. -/
def memberViolations : (schemas : List (String × Value)) → Fields Value → List Violation
  | [], _ => []
  | (name, schema) :: schemas, fields =>
    (match fields.find? name with
      | some value => violations schema value
      | none => []) ++ memberViolations schemas fields

end

/-- The violations of a schema are those of its keywords, one after the other. -/
theorem violations_object (keywords : Fields Value) (value : Value) :
    violations (.object keywords) value = keywordViolations keywords value := by
  rw [violations]

/-- Every property that is there is judged by its own schema. -/
theorem memberViolations_eq (schemas fields : Fields Value) :
    memberViolations schemas fields = schemas.flatMap fun entry =>
      match fields.find? entry.1 with
      | some value => violations entry.2 value
      | none => [] := by
  induction schemas with
  | nil => rw [memberViolations, List.flatMap_nil]
  | cons entry schemas ih => rw [memberViolations, ih, List.flatMap_cons]

end TemplateCatalog.Json.Schema
