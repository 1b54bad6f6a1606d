import TemplateCatalog.Template.Call

/-!
# Evaluation

The values of expressions. Routines, blocks and recursive loops that an expression calls run one
level deeper.
-/

namespace TemplateCatalog.Template

namespace Run

/-- What is called. -/
inductive Callee where
  /-- What has a name. -/
  | name (name : String)
  /-- A method of a value. -/
  | method (object : Value) (name : String)
  /-- A value. -/
  | value (value : Value)

/-- The result of a call. -/
def call (deeper : Deeper) (callee : Callee) (arguments : List Value) : Run Value := do
  match callee with
  | .method object name => callMethod deeper object name arguments
  | .value value => callValue deeper value arguments
  | .name "super" => if arguments.isEmpty then parentBlock deeper else throw .invalidOperation
  | .name name =>
    match (← get).lookUp? name with
    | some (.reference (.loop id)) => recurse deeper id arguments
    | some value => callValue deeper value arguments
    | none => throw .unknownFunction

/-- The positional arguments, and behind them the named ones as one mapping if there are any. -/
def packArguments (arguments : List Value × Option Entries) : List Value :=
  arguments.1 ++ (arguments.2.map (Value.map .arguments)).toList

/-- What an operator makes of two values. -/
def operate (operator : Operator) (a b : Value) : Run Value := do
  let result ← liftM (operator.apply (← settled a) (← settled b))
  return result.unviewed

/-- A comparison of two values holds. -/
def compares (comparison : Comparison) (a b : Value) : Run Bool := do
  return (← operate comparison.operator a b).isTrue != comparison.negated

/-! ### Operands

A call that leaves a value behind leaves it under its result, where an operator that waits for
several operands takes it for one of them. So operands are taken from a stack. -/

/-- A stack with an operand on top of what it leaves behind. -/
def stacked (stack : List Value) (step : Run Value) : Run (List Value) := do
  let (left, value) ← withLeftovers step
  return value :: (left.reverse ++ stack)

/-- The topmost values of a stack, the last one last; the others are left behind. -/
def operands (count : Nat) (stack : List Value) : Run (List Value) := do
  modify fun machine =>
    { machine with leftovers := machine.leftovers ++ (stack.drop count).reverse }
  return (stack.take count).reverse

/-- The arguments of a call so far. -/
structure Passed where
  /-- The stack with the positional arguments. -/
  stack : List Value
  /-- How many values of the stack are arguments. -/
  count : Nat
  /-- The named arguments, if there are any. -/
  named : Option Entries

/-- One more argument behind others. -/
def Passed.add (form : ArgumentForm) (stack : List Value) (passed : Passed) :
    Except Fault Passed :=
  let name (entries : Entries) : Option Entries :=
    some (Entries.ofPairs (passed.named.getD [] ++ entries))
  match form, stack with
  | _, [] => .ok passed
  | .positional, stack => .ok { passed with stack, count := passed.count + 1 }
  | .spread, value :: _ => value.items.map fun items =>
    { passed with stack := items.reverse ++ passed.stack, count := passed.count + items.length }
  | .named key, value :: _ => .ok { passed with named := name [(.ofString key, value)] }
  | .spreadNamed, value :: _ =>
    (Filter.entriesOf value).map fun entries => { passed with named := name entries }

/-- The arguments of a call: the positional ones, and behind them the named ones as one mapping if
there are any. -/
def Passed.pack (passed : Passed) : Run (List Value) := do
  let positional ← operands passed.count passed.stack
  return positional ++ (passed.named.map (Value.map .arguments)).toList

/-- The entries of a mapping from its keys and values in turn. -/
def paired : List Value → List (Value × Value)
  | key :: value :: rest => (key, value) :: paired rest
  | _ => []

mutual

/-- The value of an expression. -/
def evaluate (deeper : Deeper) : Expression → Run Value
  | .constant value => return value
  | .name name => return (← get).lookUp name
  | .attribute object name => do itemOf (.ofString name) (← evaluate deeper object)
  | .item object key => do
    let stack ← stacked [] (evaluate deeper object)
    match ← operands 2 (← stacked stack (evaluate deeper key)) with
    | [object, key] => itemOf key object
    | _ => throw .invalidOperation
  | .slice object start stop step => do
    let stack ← stacked [] (evaluate deeper object)
    let stack ← stacked stack (evaluate deeper start)
    let stack ← stacked stack (evaluate deeper stop)
    match ← operands 4 (← stacked stack (evaluate deeper step)) with
    | [object, start, stop, step] => liftM ((← surfaced object).slice start stop step)
    | _ => throw .invalidOperation
  | .negation operand => return .bool !(← truth (← evaluate deeper operand))
  | .opposite operand => do liftM (← evaluate deeper operand).negate
  | .both left right => do
    let value ← evaluate deeper left
    if ← truth value then evaluate deeper right else return value
  | .either left right => do
    let value ← evaluate deeper left
    if ← truth value then return value else evaluate deeper right
  | .binary operator left right => do
    let stack ← stacked [] (evaluate deeper left)
    match ← operands 2 (← stacked stack (evaluate deeper right)) with
    | [a, b] => operate operator a b
    | _ => throw .invalidOperation
  | .comparisons first others => do
    return .bool (← evaluateComparisons deeper (← evaluate deeper first) others)
  | .choice condition yes no => do
    if ← truth (← evaluate deeper condition) then evaluate deeper yes else evaluate deeper no
  | .filter subject name arguments => do
    let stack ← stacked [] (evaluate deeper subject)
    applyFilter name (← (← evaluateArguments deeper ⟨stack, 1, none⟩ arguments).pack)
  | .test subject name arguments => do
    let stack ← stacked [] (evaluate deeper subject)
    return .bool (← applyTest name (← (← evaluateArguments deeper ⟨stack, 1, none⟩ arguments).pack))
  | .call callee arguments => do
    match callee with
    | .name name =>
      call deeper (.name name) (← (← evaluateArguments deeper ⟨[], 0, none⟩ arguments).pack)
    | .attribute (.name "self") name => capturedValue (runBlock deeper name)
    | .attribute object name =>
      let stack ← stacked [] (evaluate deeper object)
      match ← (← evaluateArguments deeper ⟨stack, 1, none⟩ arguments).pack with
      | object :: arguments => call deeper (.method object name) arguments
      | [] => throw .invalidOperation
    | callee =>
      let stack ← stacked [] (evaluate deeper callee)
      match ← (← evaluateArguments deeper ⟨stack, 1, none⟩ arguments).pack with
      | callee :: arguments => call deeper (.value callee) arguments
      | [] => throw .invalidOperation
  | .list items => do
    return .ofList (← operands items.length (← evaluateItems deeper [] items))
  | .map entries => do
    let values ← operands (2 * entries.length) (← evaluateEntries deeper [] entries)
    return .map .stored (Entries.ofPairs (paired values))

/-- A row of comparisons behind a value holds; the first one that does not is the last one that is
looked at. -/
def evaluateComparisons (deeper : Deeper) (value : Value) :
    List (Comparison × Expression) → Run Bool
  | [] => return true
  | (comparison, operand) :: rest => do
    let other ← evaluate deeper operand
    if ← compares comparison value other then evaluateComparisons deeper other rest
    else return false

/-- The arguments of a call behind those so far. -/
def evaluateArguments (deeper : Deeper) (passed : Passed) :
    List (ArgumentForm × Expression) → Run Passed
  | [] => return passed
  | (form, argument) :: rest => do
    let stack ← stacked passed.stack (evaluate deeper argument)
    let stack ←
      match form with
      | .positional | .named _ => pure stack
      | .spread | .spreadNamed => stack.mapM surfaced
    evaluateArguments deeper (← liftM (passed.add form stack)) rest

/-- A stack with the values of expressions on top. -/
def evaluateItems (deeper : Deeper) (stack : List Value) : List Expression → Run (List Value)
  | [] => return stack
  | item :: items => do evaluateItems deeper (← stacked stack (evaluate deeper item)) items

/-- A stack with the keys and values of a mapping on top. -/
def evaluateEntries (deeper : Deeper) (stack : List Value) :
    List (Expression × Expression) → Run (List Value)
  | [] => return stack
  | (key, value) :: entries => do
    let stack ← stacked stack (evaluate deeper key)
    evaluateEntries deeper (← stacked stack (evaluate deeper value)) entries

end

end Run

end TemplateCatalog.Template
