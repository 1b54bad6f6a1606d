import TemplateCatalog.Template.Parts

/-!
# Taking arguments

How filters, tests and functions take their arguments: one after the other, converted to what they
expect, with the named arguments in a mapping at the end. An argument that is absent or undefined
counts as left out where it may be left out.
-/

namespace TemplateCatalog.Template

/-- A step of taking arguments. -/
abbrev Taking (α : Type) : Type :=
  StateT (List Value) (Except Fault) α

namespace Value

/-- The text of the value, which must not be a mapping of named arguments. -/
def shownText : Value → Except Fault String
  | .map form entries =>
    if form.kind = .arguments then .error .invalidOperation else .ok (Value.map form entries).toText
  | value => .ok value.toText

/-- The text of the value, which is marked as safe if the value is a safe text. -/
def markedText : Value → Except Fault (String × Bool)
  | .text s safe => .ok (s, safe)
  | value => value.shownText.map (·, false)

/-- The text that the value is. -/
def asText (value : Value) : Except Fault String :=
  match value with
  | .text s _ => .ok s
  | _ => .error .invalidOperation

/-- The truth value that the value is. -/
def asBool (value : Value) : Except Fault Bool :=
  match value with
  | .bool b => .ok b
  | _ => .error .invalidOperation

/-- The integer that the value counts as. -/
def asInt (value : Value) : Except Fault Int :=
  match value.int? with
  | some n => .ok n
  | Option.none => .error .invalidOperation

/-- The number of things that the value counts as. -/
def asCount (value : Value) : Except Fault Nat := do
  let n ← value.asInt
  if n < 0 then throw .invalidOperation
  return n.toNat

end Value

namespace Taking

/-- The next argument, if there is one. -/
def next? : Taking (Option Value) := fun arguments =>
  match arguments with
  | [] => .ok (none, [])
  | value :: rest => .ok (some value, rest)

/-- The next argument. -/
def value : Taking Value := do
  match ← next? with
  | some value => return value
  | none => throw .missingArgument

/-- The next argument, converted. -/
def converted {α : Type} (convert : Value → Except Fault α) : Taking α := do
  liftM (convert (← value))

/-- The next argument, converted, if it is given. -/
def optional {α : Type} (convert : Value → Except Fault α) : Taking (Option α) := do
  match ← next? with
  | none | some .undefined | some .none => return none
  | some value => some <$> liftM (convert value)

/-- The text of the next argument. -/
def text : Taking String :=
  converted Value.shownText

/-- The text of the next argument, and whether it is safe. -/
def markedText : Taking (String × Bool) :=
  converted Value.markedText

/-- All arguments that are left. -/
def rest : Taking (List Value) := fun arguments =>
  .ok (arguments, [])

/-- The named arguments, which come last. -/
def named : Taking Entries := fun arguments =>
  match arguments.getLast? with
  | some (.map form entries) =>
    if form.kind = .arguments then .ok (entries, arguments.dropLast) else .ok ([], arguments)
  | _ => .ok ([], arguments)

/-- All arguments have been taken. -/
def done : Taking Unit := fun arguments =>
  if arguments.isEmpty then .ok ((), []) else .error .tooManyArguments

/-- What an operation makes of the only argument. -/
def only {α : Type} (operation : Value → Except Fault α) : Taking α := do
  let value ← value
  done
  liftM (operation value)

/-- Make a call that takes all arguments. -/
def call {α : Type} (take : Taking α) (arguments : List Value) : Except Fault α := do
  let (result, rest) ← take.run arguments
  if rest.isEmpty then return result else throw .tooManyArguments

end Taking

namespace Entries

/-- The named argument, converted, if it is given. -/
def option? {α : Type} (name : String) (convert : Value → Except Fault α) (entries : Entries) :
    Except Fault (Option α) :=
  match entries.find? (.ofString name) with
  | none | some .undefined | some .none => .ok none
  | some value => (convert value).map some

/-- The named argument, converted, whatever it is, if it is given. -/
def given? {α : Type} (name : String) (convert : Value → Except Fault α) (entries : Entries) :
    Except Fault (Option α) :=
  match entries.find? (.ofString name) with
  | none => .ok none
  | some value => (convert value).map some

/-- No named arguments but the given ones are there. -/
def allow (names : List String) (entries : Entries) : Except Fault Unit :=
  entries.forM fun entry =>
    match entry.1.text? with
    | some name => if names.contains name then .ok () else .error .tooManyArguments
    | none => .error .invalidOperation

end Entries

end TemplateCatalog.Template
