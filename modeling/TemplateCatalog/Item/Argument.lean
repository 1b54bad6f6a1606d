import TemplateCatalog.Json.Printer
import TemplateCatalog.Source.Decode

/-!
# Arguments of an item

What an item declares about each argument of its template: the kind of value it takes, whether a
render must supply it, and the value it has otherwise.
-/

namespace TemplateCatalog.Item

/-- The kind of value that an argument takes. -/
inductive ArgumentKind where
  /-- A text. -/
  | string
  /-- A number. -/
  | number
  /-- A truth value. -/
  | boolean
  deriving DecidableEq, Repr, Inhabited

namespace ArgumentKind

/-- The name of the kind, in declarations and in schemas. -/
def name : ArgumentKind → String
  | .string => "string"
  | .number => "number"
  | .boolean => "boolean"

/-- The kinds in the order of their declaration. -/
def all : List ArgumentKind :=
  [.string, .number, .boolean]

/-- The kind with the given name. -/
def ofName? (name : String) : Option ArgumentKind :=
  all.find? (·.name == name)

/-- Every kind is found under its own name. -/
theorem ofName?_name (kind : ArgumentKind) : ofName? kind.name = some kind := by
  cases kind <;> decide

end ArgumentKind

/-- The declaration of one argument. -/
structure Argument where
  /-- The kind of value it takes. -/
  kind : ArgumentKind
  /-- What the argument is for. -/
  description : Option String
  /-- The value it has when a render does not supply it. -/
  default : Option Json.Value
  /-- A render has to supply it unless it has a default. -/
  required : Bool
  deriving Inhabited

namespace Argument

/-- Read the declaration under the cursor. -/
def decode (cursor : Source.Cursor) : Source.Decode Argument := do
  let found ← cursor.record ["type", "description", "default", "required"]
  return {
    kind := ← Source.Cursor.field found "type" .string (·.variant ArgumentKind.ofName?)
    description := ← Source.Cursor.field found "description" none (·.optional (·.text))
    default := ← Source.Cursor.field found "default" none (·.optional (·.value))
    required := ← Source.Cursor.field found "required" false (·.flag) }

/-- The declaration as a printable record. -/
def tree (argument : Argument) : Json.Tree :=
  .record <|
    [("type", .string argument.kind.name)] ++
    (argument.description.map fun text => ("description", Json.Tree.string text)).toList ++
    (argument.default.map fun value => ("default", Json.Tree.ofValue value)).toList ++
    [("required", .ofValue (.bool argument.required))]

end Argument

/-- The declarations of an item's arguments, by name. -/
abbrev Arguments : Type :=
  Fields Argument

namespace Arguments

/-- Read the declarations under the cursor. -/
def decode (cursor : Source.Cursor) : Source.Decode Arguments :=
  cursor.fields Argument.decode

/-- The declarations as a printable record. -/
def tree (arguments : Arguments) : Json.Tree :=
  .record (arguments.map fun entry => (entry.1, entry.2.tree))

end Arguments

end TemplateCatalog.Item
