import TemplateCatalog.Template.Filter.Collection
import TemplateCatalog.Template.Filter.Number
import TemplateCatalog.Template.Filter.Text
import TemplateCatalog.Template.Test

/-!
# Filters and tests by name

All filters and tests, among them the filters that apply filters and tests to the items of their
subject and the tests that ask whether there is a filter or a test of a name.

Main statement: `apply_of_isFilter_eq_false`, a name that is no filter's gives the fault of an
unknown filter.
-/

namespace TemplateCatalog.Template

namespace Test

/-- A test has the name. -/
def isTest (name : String) : Bool :=
  name == "filter" || name == "test" || (simple? name).isSome

end Test

namespace Filter

/-! ### Texts on several lines -/

/-- The start of a line at a level of nesting. -/
def lineStart (level : Nat) : String :=
  "\n" ++ String.ofList (List.replicate (4 * level) ' ')

mutual

/-- The value with every item of a list and every entry of a mapping on a line of its own. -/
def layOut (level : Nat) : Value → String
  | .list form (item :: items) => form.text?.getD
    ("[" ++ layOutItems (level + 1) (item :: items) ++ lineStart level ++ "]")
  | .map form (entry :: entries) => form.text?.getD
    ("\x7b" ++ layOutEntries (level + 1) (entry :: entries) ++ lineStart level ++ "\x7d")
  | value => value.nestedText

/-- The items of a list, each behind the start of a line and before a comma. -/
def layOutItems (level : Nat) : List Value → String
  | [] => ""
  | item :: items => lineStart level ++ layOut level item ++ "," ++ layOutItems level items

/-- The entries of a mapping, each behind the start of a line and before a comma. -/
def layOutEntries (level : Nat) : List (Value × Value) → String
  | [] => ""
  | (key, value) :: entries =>
    lineStart level ++ layOut level key ++ ": " ++ layOut level value ++ "," ++
      layOutEntries level entries

end

/-! ### Application -/

/-- The filter of a name that applies no other filters. -/
def simple? (escaping : Escaping) (name : String) : Option (Taking Value) :=
  text? escaping name <|> number? name <|> collection? name <|>
    if name = "pprint" then some do return .ofString (layOut 0 (← Taking.value)) else none

/-- The filters that apply tests to items: whether the test is applied to an attribute, and the
result with which an item is kept. -/
def selection? (name : String) : Option (Bool × Bool) :=
  match name with
  | "select" => some (false, true)
  | "reject" => some (false, false)
  | "selectattr" => some (true, true)
  | "rejectattr" => some (true, false)
  | _ => none

/-- A filter has the name. -/
def isFilter (name : String) : Bool :=
  name == "map" || (selection? name).isSome || (simple? .plain name).isSome

end Filter

namespace Test

/-- The result of the test under a name. -/
def apply (name : String) (arguments : List Value) : Except Fault Bool :=
  match simple? name with
  | some test => test.call arguments
  | none =>
    if name = "filter" then (ofText Filter.isFilter).call arguments
    else if name = "test" then (ofText isTest).call arguments
    else .error .unknownTest

end Test

namespace Filter

/-- The items whose test gives the wanted result. -/
def select (ofAttribute wanted : Bool) : Taking Value := do
  let subject ← Taking.value
  let path ← if ofAttribute then some <$> Taking.text else pure none
  let test ← Taking.optional Value.shownText
  let arguments ← Taking.rest
  match test with
  | some test => if !Test.isTest test then throw .unknownTest
  | none => pure ()
  let kept ← (← liftM subject.items).filterM fun item => do
    let tested ← liftM (keyOf path item)
    match test with
    | some test => return (← liftM (Test.apply test (tested :: arguments))) == wanted
    | none => return tested.isTrue == wanted
  return .ofList kept

/-- The value at the end of a key or a path, or a default where there is none. -/
def mapped (key default item : Value) : Except Fault Value :=
  let found :=
    match key with
    | .text path _ => item.along path
    | key => item.found (item.item? key)
  match found with
  | .ok .undefined => .ok default
  | .ok value => .ok value
  | .error fault => if default.isUndefined then .error fault else .ok default

/-- The items of the subject, each replaced by its attribute or by what a filter makes of it. -/
def map (filter : String → List Value → Except Fault Value) : Taking Value := do
  let subject ← Taking.value
  let options ← Taking.named
  let arguments ← Taking.rest
  match options.find? (.ofString "attribute") with
  | some .undefined | some .none | none =>
    match arguments with
    | .text name _ :: arguments =>
      if !isFilter name then throw .unknownFilter
      let items ← liftM subject.items
      return .ofList (← items.mapM fun item => liftM (filter name (item :: arguments)))
    | _ => throw .invalidOperation
  | some key =>
    if !arguments.isEmpty then throw .tooManyArguments
    let default := (options.find? (.ofString "default")).getD .undefined
    liftM (options.allow ["attribute", "default"])
    return .ofList (← (← liftM subject.items).mapM fun item => liftM (mapped key default item))

/-- The result of the filter under a name; filters apply other filters at most so deep. -/
def applyWithin (escaping : Escaping) : Nat → String → List Value → Except Fault Value
  | 0, _, _ => .error .invalidOperation
  | depth + 1, name, arguments =>
    match simple? escaping name, selection? name with
    | some filter, _ => filter.call arguments
    | none, some (ofAttribute, wanted) => (select ofAttribute wanted).call arguments
    | none, none =>
      if name = "map" then (map (applyWithin escaping depth)).call arguments
      else .error .unknownFilter

/-- The result of the filter under a name. A filter that applies another one takes the other one's
name off the arguments, so filters apply each other no deeper than there are arguments. -/
def apply (escaping : Escaping) (name : String) (arguments : List Value) : Except Fault Value :=
  applyWithin escaping (arguments.length + 1) name arguments

/-- A name that is no filter's gives the fault of an unknown filter. -/
theorem apply_of_isFilter_eq_false {name : String} (arguments : List Value)
    (unknown : isFilter name = false) :
    apply .plain name arguments = .error .unknownFilter := by
  simp only [isFilter, Bool.or_eq_false_iff, Option.isSome_eq_false_iff,
    Option.isNone_iff_eq_none] at unknown
  obtain ⟨⟨notMap, selection⟩, simple⟩ := unknown
  simp only [beq_eq_false_iff_ne, ne_eq] at notMap
  simp [apply, applyWithin, simple, selection, notMap]

end Filter

end TemplateCatalog.Template
