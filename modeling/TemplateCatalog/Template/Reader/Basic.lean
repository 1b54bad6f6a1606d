import TemplateCatalog.Template.Expression
import TemplateCatalog.Template.Token

/-!
# Reading tokens

The steps that expressions and statements are read with: looking at the next token, passing over
expected ones, and counting how deeply the reading is nested.

Main statement: `nested_depth`, what is read as a nested part leaves the depth as it was.
-/

namespace TemplateCatalog.Template

/-- The state of reading a template. -/
structure TokenReader where
  /-- The tokens that are left. -/
  tokens : List Token
  /-- How many nested parts are being read. -/
  depth : Nat
  /-- The names of the blocks so far. -/
  blocks : List String
  /-- The body of a routine is being read. -/
  inRoutine : Bool

/-- A step of reading a template. -/
abbrev Reading (α : Type) : Type :=
  StateT TokenReader (Except Fault) α

namespace Reading

/-- The template is malformed here. -/
def fail {α : Type} : Reading α :=
  fun _ => .error .malformed

/-- The next token, unless the template is at fault there. -/
def peek : Reading (Option Token) := fun reader =>
  match reader.tokens with
  | .fault fault :: _ => .error fault
  | token :: _ => .ok (some token, reader)
  | [] => .ok (none, reader)

/-- Pass over the next token. -/
def next : Reading (Option Token) := do
  let token ← peek
  modify fun reader => { reader with tokens := reader.tokens.drop 1 }
  return token

/-- Pass over the next token if it is the given one. -/
def skip (token : Token) : Reading Bool := do
  if (← peek) = some token then
    discard next
    return true
  else return false

/-- Pass over the next token if it is the given mark. -/
def skipMark (mark : String) : Reading Bool :=
  skip (.mark mark)

/-- Pass over the next token if it is the given keyword. -/
def skipName (name : String) : Reading Bool :=
  skip (.name name)

/-- Pass over the next token, which has to be the given one. -/
def expect (token : Token) : Reading Unit := do
  if !(← skip token) then fail

/-- The next token is the given one. -/
def isNext (token : Token) : Reading Bool := do
  return (← peek) = some token

/-- Pass over a name. -/
def name : Reading String := do
  match ← next with
  | some (.name name) => return name
  | _ => fail

/-- Parts of a template are nested at most this deep. -/
def depthLimit : Nat :=
  150

/-- Read a nested part. -/
def nested {α : Type} (part : Reading α) : Reading α := fun reader =>
  if depthLimit ≤ reader.depth then .error .malformed
  else
    (part { reader with depth := reader.depth + 1 }).map fun read =>
      (read.1, { read.2 with depth := reader.depth })

/-- What is read as a nested part leaves the depth as it was. -/
theorem nested_depth {α : Type} {part : Reading α} {reader after : TokenReader} {result : α}
    (h : nested part reader = .ok (result, after)) : after.depth = reader.depth := by
  simp only [nested] at h
  split at h
  · cases h
  · cases eq : part { reader with depth := reader.depth + 1 } with
    | error fault => simp [eq, Except.map] at h
    | ok read =>
      simp only [eq, Except.map, Except.ok.injEq, Prod.mk.injEq] at h
      simp [← h.2]

end Reading

end TemplateCatalog.Template
