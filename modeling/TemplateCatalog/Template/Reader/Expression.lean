import TemplateCatalog.Template.Reader.Basic

/-!
# Reading expressions

Expressions from tokens. The operators bind in this order, the loosest first: the choice between
two values, `or`, `and`, `not`, comparisons, sums, `~`, products, powers, filters and tests,
attributes, items and calls, and the sign; operators of one strength associate to the left, and
several comparisons in a row have to hold together.

Main statement: `conjunction_of_constants`, a conjunction of constants is a constant.
-/

namespace TemplateCatalog.Template.Reading

/-- The operator of a comparison. -/
def comparison? : Token → Option Operator
  | .mark "==" => some .sameAs
  | .mark "!=" => some .differsFrom
  | .mark "<" => some .less
  | .mark "<=" => some .atMost
  | .mark ">" => some .greater
  | .mark ">=" => some .atLeast
  | .name "in" => some .within
  | _ => none

/-- The operator of a sum. -/
def sumOperator? : Token → Option (Expression → Expression → Expression)
  | .mark "+" => some (.binary .add)
  | .mark "-" => some (.binary .subtract)
  | _ => none

/-- The operator that joins texts. -/
def concatOperator? : Token → Option (Expression → Expression → Expression)
  | .mark "~" => some (.binary .concat)
  | _ => none

/-- The operator of a product. -/
def productOperator? : Token → Option (Expression → Expression → Expression)
  | .mark "*" => some (.binary .multiply)
  | .mark "/" => some (.binary .divide)
  | .mark "//" => some (.binary .divideWhole)
  | .mark "%" => some (.binary .remainder)
  | _ => none

/-- The operator of a power. -/
def powerOperator? : Token → Option (Expression → Expression → Expression)
  | .mark "**" => some (.binary .power)
  | _ => none

/-- The operator of an alternative. -/
def eitherOperator? : Token → Option (Expression → Expression → Expression)
  | .name "or" => some .either
  | _ => none

/-- The conjunction of two operands. -/
def conjunction (left right : Expression) : Expression :=
  let both : Expression := .both left right
  (both.constant?.map .constant).getD both

/-- A conjunction of constants is a constant. -/
theorem conjunction_of_constants (a b : Value) :
    conjunction (.constant a) (.constant b) = .constant (.bool (a.isTrue && b.isTrue)) := by
  simp [conjunction, Expression.constant?]

/-- The operator of a conjunction. -/
def bothOperator? : Token → Option (Expression → Expression → Expression)
  | .name "and" => some conjunction
  | _ => none

/-- The expression of an operand and the comparisons behind it. -/
def compared (first : Expression) : List (Comparison × Expression) → Expression
  | [] => first
  | [(comparison, second)] =>
    let holds : Expression := .binary comparison.operator first second
    if comparison.negated then .negation holds else holds
  | others => .comparisons first others

/-- Operands joined by operators of one strength, given the first of them. -/
def chainFrom (operator? : Token → Option (Expression → Expression → Expression))
    (operand : Reading Expression) : Nat → Expression → Reading Expression
  | 0, _ => fail
  | steps + 1, left => do
    match (← peek).bind operator? with
    | some join =>
      discard next
      chainFrom operator? operand steps (join left (← operand))
    | none => return left

/-- Operands joined by operators of one strength. -/
def chain (operator? : Token → Option (Expression → Expression → Expression))
    (operand : Reading Expression) (steps : Nat) : Reading Expression := do
  chainFrom operator? operand steps (← operand)

/-- The texts of adjacent quoted texts. Behind a text, anything at fault makes the template
malformed. -/
def moreText : Nat → String → Reading String
  | 0, s => return s
  | steps + 1, s => do
    match (← get).tokens with
    | .string t :: _ =>
      discard next
      moreText steps (s ++ t)
    | .fault _ :: _ => fail
    | _ => return s

/-- An argument of a test may start with the token. -/
def startsTestArgument : Token → Bool
  | .name s => s ≠ "and" && s ≠ "or" && s ≠ "else" && s ≠ "is"
  | .string _ | .int _ | .float _ => true
  | .mark s => s = "+" || s = "-" || s = "[" || s = "\x7b"
  | _ => false

/-- A call has at most this many arguments. -/
def argumentLimit : Nat :=
  2000

/-- The constant that a keyword stands for. -/
def constant? (name : String) : Option Value :=
  if name = "true" ∨ name = "True" then some (.bool true)
  else if name = "false" ∨ name = "False" then some (.bool false)
  else if name = "none" ∨ name = "None" then some .none
  else none

mutual

/-- An expression. -/
def expression : Nat → Reading Expression
  | 0 => fail
  | steps + 1 => nested (conditional steps)

/-- An expression that does not choose between values outside of brackets. -/
def plainExpression : Nat → Reading Expression
  | 0 => fail
  | steps + 1 => nested (either steps)

/-- An expression that may choose between values. -/
def conditional : Nat → Reading Expression
  | 0 => fail
  | steps + 1 => do
    let value ← either steps
    choices steps value

/-- The conditions behind a value, and what is chosen otherwise. -/
def choices : Nat → Expression → Reading Expression
  | 0, _ => fail
  | steps + 1, value => do
    if ← skipName "if" then
      let condition ← either steps
      if ← skipName "else" then
        let otherwise ← conditional steps
        choices steps (.choice condition value otherwise)
      else choices steps (.choice condition value (.constant .undefined))
    else return value

/-- Alternatives. -/
def either : Nat → Reading Expression
  | 0 => fail
  | steps + 1 => chain eitherOperator? (chain bothOperator? (negation steps) steps) steps

/-- A comparison or its negation. -/
def negation : Nat → Reading Expression
  | 0 => fail
  | steps + 1 => do
    if ← skipName "not" then return .negation (← negation steps)
    else
      let first ← sum steps
      return compared first (← comparisons steps)

/-- The comparisons behind an operand. -/
def comparisons : Nat → Reading (List (Comparison × Expression))
  | 0 => fail
  | steps + 1 => do
    let token ← peek
    match token.bind comparison? with
    | some operator =>
      discard next
      let operand ← sum steps
      return (⟨operator, false⟩, operand) :: (← comparisons steps)
    | none =>
      if token = some (.name "not") then
        discard next
        expect (.name "in")
        let operand ← sum steps
        return (⟨.within, true⟩, operand) :: (← comparisons steps)
      else return []

/-- Sums, joined texts, products and powers. -/
def sum : Nat → Reading Expression
  | 0 => fail
  | steps + 1 =>
    chain sumOperator?
      (chain concatOperator?
        (chain productOperator? (chain powerOperator? (unary steps) steps) steps) steps) steps

/-- An operand with its sign, and behind them attributes, items, calls, filters and tests. -/
def unary : Nat → Reading Expression
  | 0 => fail
  | steps + 1 => do
    let value ← signed steps
    let value ← postfixes steps value
    filters steps value

/-- An operand with its sign. -/
def signed : Nat → Reading Expression
  | 0 => fail
  | steps + 1 => do
    if ← skipMark "-" then return .opposite (← signed steps) else nested (primary steps)

/-- The filters and tests behind an operand. -/
def filters : Nat → Expression → Reading Expression
  | 0, _ => fail
  | steps + 1, subject => do
    match ← peek with
    | some (.mark "|") =>
      discard next
      let filter ← name
      let arguments ← optionalArguments steps
      filters steps (.filter subject filter arguments)
    | some (.name "is") =>
      discard next
      let negated ← skipName "not"
      let test ← name
      let arguments ← testArguments steps
      let tested : Expression := .test subject test arguments
      filters steps (if negated then .negation tested else tested)
    | _ => return subject

/-- The arguments of a test: in brackets, or a single one without them. -/
def testArguments : Nat → Reading ArgumentList
  | 0 => fail
  | steps + 1 => do
    if ← isNext (.mark "(") then arguments steps
    else if (← peek).any startsTestArgument then
      let value ← signed steps
      return [(.positional, ← postfixes steps value)]
    else return []

/-- The arguments in brackets, if there are any brackets. -/
def optionalArguments : Nat → Reading ArgumentList
  | 0 => fail
  | steps + 1 => do
    if ← isNext (.mark "(") then arguments steps else return []

/-- The attributes, items, slices and calls behind an operand. -/
def postfixes : Nat → Expression → Reading Expression
  | 0, _ => fail
  | steps + 1, object => do
    match ← peek with
    | some (.mark ".") =>
      discard next
      match ← next with
      | some (.name key) => postfixes steps (.attribute object key)
      | some (.int index) => postfixes steps (.item object (.constant (.nat index)))
      | _ => fail
    | some (.mark "[") =>
      discard next
      let part ← subscript steps object
      postfixes steps part
    | some (.mark "(") =>
      let arguments ← arguments steps
      postfixes steps (.call object arguments)
    | _ => return object

/-- A key or the bounds of a slice, up to the closing bracket. -/
def subscript : Nat → Expression → Reading Expression
  | 0, _ => fail
  | steps + 1, object => do
    let start ← optionalBound steps
    if ← skipMark ":" then
      let stop ← optionalBound steps
      let step ← if ← skipMark ":" then optionalBound steps else pure none
      expect (.mark "]")
      let bound (e : Option Expression) : Expression := e.getD (.constant .none)
      return .slice object (bound start) (bound stop) (bound step)
    else
      expect (.mark "]")
      match start with
      | some key => return .item object key
      | none => fail

/-- A bound of a slice, unless it is left out. -/
def optionalBound : Nat → Reading (Option Expression)
  | 0 => fail
  | steps + 1 => do
    if (← isNext (.mark ":")) || (← isNext (.mark "]")) then return none
    else return some (← expression steps)

/-- The arguments of a call, in brackets. -/
def arguments : Nat → Reading ArgumentList
  | 0 => fail
  | steps + 1 => do
    expect (.mark "(")
    argumentsFrom steps [] false

/-- The arguments from some place on, given those before it, the last one first, and whether one
of them was named. -/
def argumentsFrom : Nat → ArgumentList → Bool → Reading ArgumentList
  | 0, _, _ => fail
  | steps + 1, before, named => do
    if ← skipMark ")" then return before.reverse
    if !before.isEmpty then expect (.mark ",")
    if !before.isEmpty && (← skipMark ")") then return before.reverse
    if argumentLimit ≤ before.length then fail
    if ← skipMark "**" then
      let mapping ← expression steps
      argumentsFrom steps ((.spreadNamed, mapping) :: before) true
    else if ← skipMark "*" then
      let list ← expression steps
      argumentsFrom steps ((.spread, list) :: before) named
    else
      let value ← expression steps
      match value, ← isNext (.mark "=") with
      | .name key, true =>
        discard next
        let value ← expression steps
        argumentsFrom steps ((.named key, value) :: before) true
      | _, _ =>
        if named then fail
        else argumentsFrom steps ((.positional, value) :: before) false

/-- An expression without operators. -/
def primary : Nat → Reading Expression
  | 0 => fail
  | steps + 1 => do
    match ← next with
    | some (.name name) =>
      match constant? name with
      | some value => return .constant value
      | none => return .name name
    | some (.string s) =>
      let s ← moreText steps s
      return .constant (.ofString s)
    | some (.int n) => return .constant (.nat n)
    | some (.float x) => return .constant (.float x)
    | some (.mark "(") => grouped steps
    | some (.mark "[") => return .list (← listItems steps "]" [])
    | some (.mark "\x7b") => return .map (← mapEntries steps [])
    | _ => fail

/-- An expression or a list in round brackets, behind the opening one. -/
def grouped : Nat → Reading Expression
  | 0 => fail
  | steps + 1 => do
    if ← skipMark ")" then return .list []
    else
      let first ← expression steps
      if ← isNext (.mark ",") then return .list (← listItems steps ")" [first])
      else
        expect (.mark ")")
        return first

/-- The items of a list up to its closing bracket, given those before, the last one first. -/
def listItems : Nat → String → List Expression → Reading (List Expression)
  | 0, _, _ => fail
  | steps + 1, closing, before => do
    if ← skipMark closing then return before.reverse
    if !before.isEmpty then expect (.mark ",")
    if !before.isEmpty && (← skipMark closing) then return before.reverse
    let item ← expression steps
    listItems steps closing (item :: before)

/-- The entries of a mapping up to its closing brace, given those before, the last one first. -/
def mapEntries : Nat → List (Expression × Expression) →
    Reading (List (Expression × Expression))
  | 0, _ => fail
  | steps + 1, before => do
    if ← skipMark "\x7d" then return before.reverse
    if !before.isEmpty then expect (.mark ",")
    if !before.isEmpty && (← skipMark "\x7d") then return before.reverse
    let key ← expression steps
    expect (.mark ":")
    let value ← expression steps
    mapEntries steps ((key, value) :: before)

end

end TemplateCatalog.Template.Reading
