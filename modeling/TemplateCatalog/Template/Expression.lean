import TemplateCatalog.Template.Operator

/-!
# Expressions and statements

The structure of a template: the expressions it computes and the statements it consists of.

Main statement: `constant?_list`, a list of constants is a constant.
-/

namespace TemplateCatalog.Template

/-- How an argument of a call is given. -/
inductive ArgumentForm where
  /-- By its position. -/
  | positional
  /-- As a list of positional arguments. -/
  | spread
  /-- By its name. -/
  | named (name : String)
  /-- As a mapping of named arguments. -/
  | spreadNamed
  deriving DecidableEq, Repr

/-- How two neighbours in a row of comparisons are compared. -/
structure Comparison where
  /-- The operator between them. -/
  operator : Operator
  /-- The comparison holds where the operator fails. -/
  negated : Bool

/-- An expression. -/
inductive Expression where
  /-- A value. -/
  | constant (value : Value)
  /-- The value of a variable. -/
  | name (name : String)
  /-- The attribute of a value. -/
  | attribute (object : Expression) (name : String)
  /-- The item of a value under a key. -/
  | item (object key : Expression)
  /-- A part of a text or a list. -/
  | slice (object start stop step : Expression)
  /-- The opposite truth value. -/
  | negation (operand : Expression)
  /-- The opposite number. -/
  | opposite (operand : Expression)
  /-- The second operand if the first one counts as true, and else the first one. -/
  | both (left right : Expression)
  /-- The first operand if it counts as true, and else the second one. -/
  | either (left right : Expression)
  /-- An operator between two operands. -/
  | binary (operator : Operator) (left right : Expression)
  /-- Several comparisons in a row, all of which have to hold. -/
  | comparisons (first : Expression) (others : List (Comparison × Expression))
  /-- One of two values, chosen by a condition. -/
  | choice (condition yes no : Expression)
  /-- The result of a filter. -/
  | filter (subject : Expression) (name : String) (arguments : List (ArgumentForm × Expression))
  /-- The result of a test. -/
  | test (subject : Expression) (name : String) (arguments : List (ArgumentForm × Expression))
  /-- The result of a call. -/
  | call (callee : Expression) (arguments : List (ArgumentForm × Expression))
  /-- A list. -/
  | list (items : List Expression)
  /-- A mapping. -/
  | map (entries : List (Expression × Expression))
  deriving Inhabited

namespace Expression

mutual

/-- The value of an expression that consists of constants, if its operators apply to them. A
conjunction of constants is a truth value. -/
def constant? : Expression → Option Value
  | .constant value => some value
  | .negation operand => (constant? operand).map fun value => .bool !value.isTrue
  | .opposite operand => (constant? operand).bind fun value => value.negate.toOption
  | .both left right => do
    let a ← constant? left
    let b ← constant? right
    return .bool (a.isTrue && b.isTrue)
  | .either left right => do
    let a ← constant? left
    let b ← constant? right
    return if a.isTrue then a else b
  | .binary operator left right => do
    let a ← constant? left
    let b ← constant? right
    (operator.apply a b).toOption
  | .list items => (constantItems? items).map .ofList
  | .map entries => (constantEntries? entries).map fun entries =>
      .map .stored (Entries.ofPairs entries)
  | _ => none

/-- The values of expressions that consist of constants. -/
def constantItems? : List Expression → Option (List Value)
  | [] => some []
  | first :: others => do
    let value ← constant? first
    let values ← constantItems? others
    return value :: values

/-- The entries of a mapping that consists of constants. -/
def constantEntries? : List (Expression × Expression) → Option (List (Value × Value))
  | [] => some []
  | (key, value) :: entries => do
    let key ← constant? key
    let value ← constant? value
    let others ← constantEntries? entries
    return (key, value) :: others

end

/-- A list of constants is a constant. -/
theorem constant?_list (values : List Value) :
    constant? (.list (values.map .constant)) = some (.ofList values) := by
  have items : constantItems? (values.map .constant) = some values := by
    induction values with
    | nil => simp [constantItems?]
    | cons value values ih => simp [constantItems?, constant?, ih]
  simp [constant?, items]

end Expression

/-- The arguments of a call. -/
abbrev ArgumentList : Type :=
  List (ArgumentForm × Expression)

/-- What a value is assigned to. -/
inductive Target where
  /-- A variable. -/
  | name (name : String)
  /-- An attribute of the record that a variable and further attributes lead to. -/
  | attribute (root : String) (path : List String) (name : String)
  /-- Several targets, one for each item of a list. -/
  | list (targets : List Target)
  deriving Inhabited

/-- A filter that is applied to a section of a template. -/
structure FilterCall where
  /-- The name of the filter. -/
  name : String
  /-- The arguments behind the text of the section. -/
  arguments : ArgumentList

/-- A parameter of a routine. -/
structure Parameter where
  /-- The name of the parameter. -/
  name : String
  /-- The value that it has without an argument. -/
  default : Option Expression

/-- A statement. -/
inductive Statement where
  /-- Write a text. -/
  | data (text : String)
  /-- Write the text of a value. -/
  | output (value : Expression)
  /-- Repeat statements for every item of a value that meets a condition; without any, run other
  statements. -/
  | loop (target : Target) (source : Expression) (condition : Option Expression)
      (recursive : Bool) (body otherwise : List Statement)
  /-- Run one of two lists of statements. -/
  | branch (condition : Expression) (yes no : List Statement)
  /-- Run statements with variables of their own. -/
  | scope (bindings : List (Target × Expression)) (body : List Statement)
  /-- Assign a value. -/
  | assign (target : Target) (value : Expression)
  /-- Assign the text that statements write. -/
  | capture (target : Target) (filters : List FilterCall) (body : List Statement)
  /-- Run statements with another way of escaping. -/
  | escaping (mode : Expression) (body : List Statement)
  /-- Write the text that statements write after it has passed filters. -/
  | filtered (filters : List FilterCall) (body : List Statement)
  /-- A section that templates based on this one can replace. -/
  | block (name : String) (body : List Statement)
  /-- Fail, for want of a section that templates based on this one have to give. -/
  | missing
  /-- Base the template on another one. -/
  | inherit (template : Expression)
  /-- Run another template. -/
  | insert (template : Expression) (optional : Bool)
  /-- Assign the variables of another template as one mapping. -/
  | bring (template : Expression) (target : Target)
  /-- Assign variables of another template, each under its own or another name. -/
  | bringNames (template : Expression) (names : List (String × String))
  /-- Define a routine. -/
  | define (name : String) (parameters : List Parameter) (body : List Statement)
  /-- Write the result of a call that can call back the given statements. -/
  | callWith (callee : Expression) (arguments : ArgumentList) (parameters : List Parameter)
      (body : List Statement)
  /-- Make a call and drop its result. -/
  | perform (callee : Expression) (arguments : ArgumentList)
  deriving Inhabited

namespace Statement

mutual

/-- The sections of a statement that can be replaced, the inner ones behind the outer ones. -/
def blocks : Statement → List (String × List Statement)
  | .loop _ _ _ _ body otherwise => blocksIn body ++ blocksIn otherwise
  | .branch _ yes no => blocksIn yes ++ blocksIn no
  | .scope _ body | .capture _ _ body | .escaping _ body | .filtered _ body => blocksIn body
  | .block name body => (name, body) :: blocksIn body
  | _ => []

/-- The sections of a list of statements that can be replaced. -/
def blocksIn : List Statement → List (String × List Statement)
  | [] => []
  | statement :: statements => blocks statement ++ blocksIn statements

end

end Statement

/-- A template that has been compiled. -/
structure Compiled where
  /-- The statements of the template. -/
  body : List Statement

/-- The sections of the template that can be replaced. -/
def Compiled.blocks (template : Compiled) : List (String × List Statement) :=
  Statement.blocksIn template.body

end TemplateCatalog.Template
