import TemplateCatalog.Template.Expression

/-!
# Free names of routines

The names that the body of a routine mentions without having assigned them first. A routine keeps
what these names stand for where it is defined. Neither the value that a slice is taken of nor the
record whose attribute is set counts as mentioned.
-/

namespace TemplateCatalog.Template

/-- What is known about the names in the part of a body that has been passed. -/
structure Scope where
  /-- The names that have been assigned or mentioned. -/
  bound : List String
  /-- The names that were mentioned before they were assigned. -/
  free : List String

namespace Scope

/-- The name has been assigned. -/
def bind (name : String) (scope : Scope) : Scope :=
  { scope with bound := name :: scope.bound }

/-- The name is mentioned. -/
def mention (name : String) (scope : Scope) : Scope :=
  if scope.bound.contains name then scope
  else ⟨name :: scope.bound, name :: scope.free⟩

/-- Leave a section: what was assigned in it is forgotten. -/
def leave (outer scope : Scope) : Scope :=
  { scope with bound := outer.bound }

mutual

/-- Pass an expression. -/
def passExpression : Expression → Scope → Scope
  | .constant _, scope => scope
  | .name name, scope => scope.mention name
  | .attribute object _, scope => passExpression object scope
  | .item object key, scope => passExpression key (passExpression object scope)
  | .slice _ start stop step, scope =>
    passExpression step (passExpression stop (passExpression start scope))
  | .negation operand, scope => passExpression operand scope
  | .opposite operand, scope => passExpression operand scope
  | .both left right, scope => passExpression right (passExpression left scope)
  | .either left right, scope => passExpression right (passExpression left scope)
  | .binary _ left right, scope => passExpression right (passExpression left scope)
  | .comparisons first others, scope => passOthers others (passExpression first scope)
  | .choice condition yes no, scope =>
    passExpression no (passExpression yes (passExpression condition scope))
  | .filter subject _ arguments, scope => passArguments arguments (passExpression subject scope)
  | .test subject _ arguments, scope => passArguments arguments (passExpression subject scope)
  | .call callee arguments, scope => passArguments arguments (passExpression callee scope)
  | .list items, scope => passItems items scope
  | .map entries, scope => passEntries entries scope

/-- Pass the arguments of a call. -/
def passArguments : List (ArgumentForm × Expression) → Scope → Scope
  | [], scope => scope
  | (_, argument) :: rest, scope => passArguments rest (passExpression argument scope)

/-- Pass the operands of a row of comparisons behind the first one. -/
def passOthers : List (Comparison × Expression) → Scope → Scope
  | [], scope => scope
  | (_, operand) :: rest, scope => passOthers rest (passExpression operand scope)

/-- Pass the items of a list. -/
def passItems : List Expression → Scope → Scope
  | [], scope => scope
  | item :: rest, scope => passItems rest (passExpression item scope)

/-- Pass the entries of a mapping. -/
def passEntries : List (Expression × Expression) → Scope → Scope
  | [], scope => scope
  | (key, value) :: rest, scope =>
    passEntries rest (passExpression value (passExpression key scope))

end

mutual

/-- Bind a target. -/
def bindTarget : Target → Scope → Scope
  | .name name, scope => scope.bind name
  | .attribute _ _ _, scope => scope
  | .list targets, scope => bindTargets targets scope

/-- Bind several targets. -/
def bindTargets : List Target → Scope → Scope
  | [], scope => scope
  | target :: targets, scope => bindTargets targets (bindTarget target scope)

end

/-- Bind the parameters of a routine and pass their defaults. -/
def passParameters (parameters : List Parameter) (scope : Scope) : Scope :=
  let bound := parameters.foldl (fun scope parameter => scope.bind parameter.name) scope
  parameters.foldl (fun scope parameter => parameter.default.elim scope (passExpression · scope))
    bound

mutual

/-- Pass a statement. -/
def passStatement : Statement → Scope → Scope
  | .data _, scope => scope
  | .output value, scope => passExpression value scope
  | .loop target source condition _ body otherwise, scope =>
    let inner := bindTarget target (passExpression source (scope.bind "loop"))
    let inner := passStatements body (condition.elim inner (passExpression · inner))
    let scope := leave scope inner
    leave scope (passStatements otherwise scope)
  | .branch condition yes no, scope =>
    let scope := passExpression condition scope
    let scope := leave scope (passStatements yes scope)
    leave scope (passStatements no scope)
  | .scope bindings body, scope =>
    let inner := bindings.foldl (fun scope binding =>
      passExpression binding.2 (bindTarget binding.1 scope)) scope
    leave scope (passStatements body inner)
  | .assign target value, scope => passExpression value (bindTarget target scope)
  | .capture target _ body, scope =>
    let scope := bindTarget target scope
    leave scope (passStatements body scope)
  | .escaping _ body, scope => leave scope (passStatements body scope)
  | .filtered _ body, scope => leave scope (passStatements body scope)
  | .block _ body, scope => leave scope (passStatements body (scope.bind "super"))
  | .missing, scope => scope
  | .inherit _, scope => scope
  | .insert _ _, scope => scope
  | .bring _ target, scope => bindTarget target scope
  | .bringNames _ names, scope => names.foldl (fun scope pair => scope.bind pair.2) scope
  | .define name parameters body, scope =>
    passStatements body (passParameters parameters ((scope.bind name).bind "caller"))
  | .callWith callee arguments parameters body, scope =>
    let scope := passArguments arguments (passExpression callee scope)
    passStatements body (passParameters parameters (scope.bind "caller"))
  | .perform callee arguments, scope => passArguments arguments (passExpression callee scope)

/-- Pass several statements. -/
def passStatements : List Statement → Scope → Scope
  | [], scope => scope
  | statement :: statements, scope => passStatements statements (passStatement statement scope)

end

end Scope

/-- The free names of a routine with the given parameters and body. -/
def freeNames (parameters : List Parameter) (body : List Statement) : List String :=
  (Scope.passStatements body (Scope.passParameters parameters ⟨[], []⟩)).free

end TemplateCatalog.Template
