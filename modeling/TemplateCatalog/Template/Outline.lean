import TemplateCatalog.Template.Filter
import TemplateCatalog.Template.Machine

/-!
# Outlines

What `debug` shows when it is called without arguments: the state of the rendering on several lines,
with all variables that are known and with what there is of functions, tests, filters and templates.
The templates are in no particular order for the engine; here they come in the order of their names.

Main statements:

* `Test.isTest_iff_mem_names`, `Filter.isFilter_iff_mem_names`: the names that are shown are those
  of all tests and filters.
-/

namespace TemplateCatalog.Template

/-- A text on several lines. -/
inductive Outline where
  /-- A word on the line that it is begun on. -/
  | word (text : String)
  /-- A value. -/
  | value (value : Value)
  /-- Parts with their labels, on lines of their own between an opening and a closing. -/
  | parts (opening closing : String) (labelled : List (String × Outline))

namespace Outline

mutual

/-- The text of an outline at a level of nesting. -/
def text (level : Nat) : Outline → String
  | .word shown => shown
  | .value shown => Filter.layOut level shown
  | .parts opening closing [] => opening ++ closing
  | .parts opening closing (part :: labelled) =>
    opening ++ partTexts (level + 1) (part :: labelled) ++ Filter.lineStart level ++ closing

/-- The parts of an outline, each behind the start of a line and its label and before a comma. -/
def partTexts (level : Nat) : List (String × Outline) → String
  | [] => ""
  | (label, part) :: labelled =>
    Filter.lineStart level ++ label ++ text level part ++ "," ++ partTexts level labelled

end

/-- A list of names. -/
def ofNames (names : List String) : Outline :=
  .parts "[" "]" (names.map fun name => ("", .value (.ofString name)))

/-- A mapping of names to values. -/
def ofFields (fields : List (String × Value)) : Outline :=
  .parts "\x7b" "\x7d" (fields.map fun field => (Text.quoted field.1 ++ ": ", .value field.2))

end Outline

/-- The names of tests, in order. -/
def Test.names : List String :=
  ["!=", "<", "<=", "==", ">", ">=", "boolean", "defined", "divisibleby", "endingwith", "eq",
    "equalto", "escaped", "even", "false", "filter", "float", "ge", "greaterthan", "gt", "in",
    "int", "integer", "iterable", "le", "lessthan", "lower", "lt", "mapping", "ne", "none",
    "number", "odd", "safe", "sameas", "sequence", "startingwith", "string", "test", "true",
    "undefined", "upper"]

/-- The names of filters, in order. -/
def Filter.names : List String :=
  ["abs", "attr", "batch", "bool", "capitalize", "chain", "count", "d", "default", "dictsort", "e",
    "escape", "first", "float", "format", "groupby", "indent", "int", "items", "join", "last",
    "length", "lines", "list", "lower", "map", "max", "min", "pprint", "reject", "rejectattr",
    "replace", "reverse", "round", "safe", "select", "selectattr", "slice", "sort", "split",
    "string", "sum", "title", "trim", "unique", "upper", "zip"]

/-- The names that are shown are those of all tests. -/
theorem Test.isTest_iff_mem_names {name : String} : isTest name = true ↔ name ∈ names := by
  constructor
  · intro htest
    simp only [isTest, Bool.or_eq_true, beq_iff_eq] at htest
    rcases htest with (rfl | rfl) | htest
    · decide
    · decide
    · unfold simple? at htest
      split at htest
      all_goals first | decide | cases htest
  · revert name
    decide

/-- The names that are shown are those of all filters. -/
theorem Filter.isFilter_iff_mem_names {name : String} : isFilter name = true ↔ name ∈ names := by
  constructor
  · intro hfilter
    simp only [isFilter, simple?, Option.orElse_eq_orElse, Option.orElse_eq_or, Option.isSome_or,
      Bool.or_eq_true, beq_iff_eq] at hfilter
    rcases hfilter with (rfl | hselection) | htext | hnumber | hcollection | hlayout
    · decide
    · unfold selection? at hselection
      split at hselection
      all_goals first | decide | cases hselection
    · unfold text? at htext
      split at htext
      all_goals first | decide | cases htext
    · unfold number? at hnumber
      split at hnumber
      all_goals first | decide | cases hnumber
    · unfold collection? at hcollection
      split at hcollection
      all_goals first | decide | cases hcollection
    · split at hlayout
      · next hname =>
        rw [hname]
        decide
      · cases hlayout
  · revert name
    decide

/-- The word for a way of escaping. -/
def Escaping.word : Escaping → String
  | .plain => "None"
  | .markup => "Html"

namespace Machine

/-- The values that a frame knows, those assigned in it first. -/
def frameValues (machine : Machine) (frame : Frame) : List (String × Value) :=
  let loop := frame.loop.elim [] fun id => [("loop", .reference (.loop id))]
  let known :=
    match frame.context with
    | .nothing => []
    | .arguments fields => fields
    | .closure id => (machine.closures[id]?).getD []
  frame.assigned ++ loop ++ known

/-- The values of all variables that are known, the innermost ones first. -/
def knownValues (machine : Machine) : List (String × Value) :=
  (machine.frames.flatMap machine.frameValues).eraseDupsBy fun a b => a.1 == b.1

/-- The outline of the state. -/
def outline (machine : Machine) (settle : Value → Value) : Outline :=
  .parts "State \x7b" "\x7d" [
    ("name: ", .value (.ofString machine.template)),
    ("current_block: ", machine.block.elim (.word "None") fun name =>
      .parts "Some(" ")" [("", .value (.ofString name))]),
    ("auto_escape: ", .word machine.escaping.word),
    ("ctx: ", .ofFields (machine.knownValues.map fun known => (known.1, settle known.2))),
    ("env: ", .parts "Environment \x7b" "\x7d" [
      ("globals: ", .ofFields
        (Fields.ofPairs (functions.map fun name => (name, Value.function name)))),
      ("tests: ", .ofNames Test.names),
      ("filters: ", .ofNames Filter.names),
      ("templates: ", .ofNames machine.templates)])]

end Machine

end TemplateCatalog.Template
