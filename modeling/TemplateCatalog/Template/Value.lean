import TemplateCatalog.Decimal.Layout
import TemplateCatalog.Json.Value
import TemplateCatalog.Text.Quoted

/-!
# Values of templates

The values that templates compute with: those of the render arguments, and in addition undefined
values, marked texts, mappings with keys of any kind, and references to what a template defines
while it is rendered.

Integers are exact; operations keep them within 128 bits. A value that refers to what a template
defines is seen through a view, a mapping of the attributes that its target has at that moment.

Main statement: `unviewed_view`, a view without its attributes is the reference again.
-/

namespace TemplateCatalog.Template

/-- What a list is. -/
inductive ListKind where
  /-- A list of items. -/
  | stored
  /-- A view of other values that knows how many items it has, such as a slice. -/
  | derived
  /-- A view of other values that does not know how many items it has. -/
  | stream
  /-- A group of items: their common value and the list of them. -/
  | group
  deriving DecidableEq, Repr

/-- The form of a list. Lists that a variable has held carry a mark, which tells them apart from
other lists of the same items. -/
structure ListForm where
  /-- What the list is. -/
  kind : ListKind
  /-- The mark of the list. -/
  mark : Option Nat
  deriving DecidableEq, Repr

namespace ListForm

/-- The form of a new list of items. -/
def stored : ListForm :=
  ⟨.stored, none⟩

/-- The form of a new view that knows how many items it has. -/
def derived : ListForm :=
  ⟨.derived, none⟩

/-- The form of a new view that does not know how many items it has. -/
def stream : ListForm :=
  ⟨.stream, none⟩

/-- The form of a new group of items. -/
def group : ListForm :=
  ⟨.group, none⟩

/-- The text of the list as a whole, if it shows no items. -/
def text? (form : ListForm) : Option String :=
  if form.kind = .stream then some "<iterator>" else none

end ListForm

/-- A reference to something that a template defines while it is rendered. -/
inductive Reference where
  /-- A routine, by its number. -/
  | routine (id : Nat) (name : String)
  /-- A running loop, by its number. -/
  | loop (id : Nat)
  /-- A record whose attributes can be set, by its number. -/
  | record (id : Nat)
  deriving DecidableEq, Repr

/-- The text of a reference whose target is not looked at. -/
def Reference.text : Reference → String
  | .routine _ name => "<macro " ++ name ++ ">"
  | .loop _ => "<loop>"
  | .record _ => "\x7b\x7d"

/-- What a mapping is. -/
inductive MapKind where
  /-- A mapping of keys to values. -/
  | stored
  /-- The named arguments of a call. -/
  | arguments
  /-- The variables of a template, which show as the text of the template. -/
  | shown (text : String)
  /-- The attributes of what a reference leads to, which may show as a text of its own. -/
  | view (reference : Reference) (text : Option String)
  deriving DecidableEq, Repr

/-- The form of a mapping. Mappings that a variable has held carry a mark, which tells them apart
from other mappings of the same entries. -/
structure MapForm where
  /-- What the mapping is. -/
  kind : MapKind
  /-- The mark of the mapping. -/
  mark : Option Nat
  deriving DecidableEq, Repr

namespace MapForm

/-- The form of a new mapping. -/
def stored : MapForm :=
  ⟨.stored, none⟩

/-- The form of new named arguments. -/
def arguments : MapForm :=
  ⟨.arguments, none⟩

/-- The text of the mapping as a whole, if it shows no entries. -/
def text? (form : MapForm) : Option String :=
  match form.kind with
  | .shown text => some text
  | .view _ text => text
  | _ => none

end MapForm

/-- A value. -/
inductive Value where
  /-- Nothing was ever given. -/
  | undefined
  /-- The absent value. -/
  | none
  /-- A truth value. -/
  | bool (b : Bool)
  /-- An integer; an `unsigned` one was given as such, a signed one was computed or is negative. -/
  | int (n : Int) (unsigned : Bool)
  /-- A floating point number. -/
  | float (x : Float)
  /-- A text; a `safe` one is not escaped when it is written out. -/
  | text (s : String) (safe : Bool)
  /-- A list. -/
  | list (form : ListForm) (items : List Value)
  /-- A mapping, its entries in ascending order of their keys. -/
  | map (form : MapForm) (entries : List (Value × Value))
  /-- A reference. -/
  | reference (reference : Reference)
  /-- A function that every template knows. -/
  | function (name : String)
  /-- An item that could not be made, for a reason. -/
  | broken (reason : String)
  deriving Inhabited

/-- The kinds of values, in the order in which values of different kinds stand. -/
inductive Kind where
  /-- Undefined values. -/
  | undefined
  /-- The absent value. -/
  | none
  /-- Truth values. -/
  | bool
  /-- Numbers. -/
  | number
  /-- Texts. -/
  | text
  /-- Lists that are stored. -/
  | list
  /-- Mappings, and what has attributes like a mapping. -/
  | map
  /-- Lists that are views. -/
  | iterable
  /-- Functions. -/
  | function
  /-- Items that could not be made. -/
  | broken
  deriving DecidableEq, Repr

/-- The place of the kind among the kinds. -/
def Kind.rank : Kind → Nat
  | .undefined => 0
  | .none => 1
  | .bool => 2
  | .number => 3
  | .text => 4
  | .list => 5
  | .map => 6
  | .iterable => 7
  | .function => 8
  | .broken => 9

/-- The name of the kind in messages. -/
def Kind.name : Kind → String
  | .undefined => "undefined"
  | .none => "none"
  | .bool => "bool"
  | .number => "number"
  | .text => "string"
  | .list => "sequence"
  | .map => "map"
  | .iterable => "iterator"
  | .function => "plain object"
  | .broken => "invalid value"

namespace Value

/-- A text that is escaped when it is written out. -/
def ofString (s : String) : Value :=
  .text s false

/-- A list built item by item. -/
def ofList (items : List Value) : Value :=
  .list .stored items

/-- A number of things. -/
def nat (n : Nat) : Value :=
  .int n true

/-- An integer that was computed. -/
def integer (n : Int) : Value :=
  .int n false

/-- A view of what a reference leads to: its attributes, and the text that it shows as if that is
not the text of a mapping. -/
def view (source : Reference) (text : Option String) (attributes : List (String × Value)) : Value :=
  .map ⟨.view source text, Option.none⟩ (attributes.map fun entry => (.ofString entry.1, entry.2))

/-- The kind of the value. -/
def kind : Value → Kind
  | .undefined => .undefined
  | .none => .none
  | .bool _ => .bool
  | .int _ _ | .float _ => .number
  | .text _ _ => .text
  | .list form _ =>
    match form.kind with
    | .stored | .group => .list
    | .derived | .stream => .iterable
  | .map _ _ | .reference _ => .map
  | .function _ => .function
  | .broken _ => .broken

/-- The value is undefined. -/
def isUndefined : Value → Bool
  | .undefined => true
  | _ => false

/-- The value counts as true in a condition: it is neither absent, false, zero nor empty. -/
def isTrue : Value → Bool
  | .undefined | .none => false
  | .bool b => b
  | .int n _ => n != 0
  | .float x => x != 0
  | .text s _ => s != ""
  | .list form items => form.kind == .stream || !items.isEmpty
  | .map _ entries => !entries.isEmpty
  | .reference _ | .function _ => true
  | .broken _ => false

/-- The text that the value is, if it is one. -/
def text? : Value → Option String
  | .text s _ => some s
  | _ => Option.none

/-- The value is a text that is not escaped again. -/
def isSafe : Value → Bool
  | .text _ safe => safe
  | _ => false

/-- The value counts as an integer: a truth value, an integer, or a number without a fraction. -/
def int? : Value → Option Int
  | .bool b => some (if b then 1 else 0)
  | .int n _ => some n
  | .float x => if x.toInt64.toFloat == x then some x.toInt64.toInt else Option.none
  | _ => Option.none

mutual

/-- The value that a value of a document is in a template. -/
def ofJson : Json.Value → Value
  | .null => .none
  | .bool b => .bool b
  | .number (.integer n) => .int n (0 ≤ n)
  | .number (.float x) => .float x
  | .string s => .ofString s
  | .array items => .list .stored (ofJsonItems items)
  | .object fields => .map .stored (ofJsonFields fields)

/-- The values of the items of a list. -/
def ofJsonItems : List Json.Value → List Value
  | [] => []
  | item :: items => ofJson item :: ofJsonItems items

/-- The entries of the fields of an object. -/
def ofJsonFields : List (String × Json.Value) → List (Value × Value)
  | [] => []
  | (name, value) :: fields => (.ofString name, ofJson value) :: ofJsonFields fields

end

/-! ### Marks -/

mutual

/-- The value with marks from a number on, and the first number that is left; what has a mark
keeps it, and so does what it consists of. -/
def marked (next : Nat) : Value → Value × Nat
  | .list form items =>
    match form.mark with
    | some _ => (.list form items, next)
    | Option.none =>
      let found := markedItems (next + 1) items
      (.list { form with mark := some next } found.1, found.2)
  | .map form entries =>
    match form.mark with
    | some _ => (.map form entries, next)
    | Option.none =>
      let found := markedEntries (next + 1) entries
      (.map { form with mark := some next } found.1, found.2)
  | value => (value, next)

/-- The items of a list with marks. -/
def markedItems (next : Nat) : List Value → List Value × Nat
  | [] => ([], next)
  | item :: items =>
    let first := marked next item
    let others := markedItems first.2 items
    (first.1 :: others.1, others.2)

/-- The entries of a mapping with marks. -/
def markedEntries (next : Nat) : List (Value × Value) → List (Value × Value) × Nat
  | [] => ([], next)
  | (key, value) :: entries =>
    let first := marked next value
    let others := markedEntries first.2 entries
    ((key, first.1) :: others.1, others.2)

end

mutual

/-- The value with every view replaced by its reference. -/
def unviewed : Value → Value
  | .list form items => .list form (unviewedItems items)
  | .map form entries =>
    match form.kind with
    | .view source _ => .reference source
    | _ => .map form (unviewedEntries entries)
  | value => value

/-- The items of a list with every view replaced by its reference. -/
def unviewedItems : List Value → List Value
  | [] => []
  | item :: items => unviewed item :: unviewedItems items

/-- The entries of a mapping with every view replaced by its reference. -/
def unviewedEntries : List (Value × Value) → List (Value × Value)
  | [] => []
  | (key, value) :: entries => (key, unviewed value) :: unviewedEntries entries

end

/-- A view without its attributes is the reference again. -/
theorem unviewed_view (source : Reference) (text : Option String)
    (attributes : List (String × Value)) :
    unviewed (view source text attributes) = .reference source := by
  simp [view, unviewed]

/-! ### Values as text -/

/-- Numbers are written in place, whatever their size. -/
def numberLayout : Decimal.Layout where
  positionalFrom := Option.none
  exponentFrom := Option.none
  tie := .upward
  exponentStyle := .bare

/-- Inside lists and mappings, numbers from `10 ^ 16` on and below `10 ^ -4` get an exponent. -/
def nestedNumberLayout : Decimal.Layout where
  positionalFrom := some (-4)
  exponentFrom := some 16
  tie := .upward
  exponentStyle := .bare

/-- The text of a floating point number. -/
def floatText (layout : Decimal.Layout) (x : Float) : String :=
  if x.isNaN then "NaN"
  else if x.isInf then (if x < 0 then "-inf" else "inf")
  else layout.render x

/-- The text of a truth value. -/
def boolText (b : Bool) : String :=
  if b then "True" else "False"

/-- The text of a function. -/
def functionText (name : String) : String :=
  "minijinja::functions::builtins::" ++ name

/-- What a list or a mapping shows: its parts between brackets, separated by commas. -/
def bracketed (opening closing : String) (parts : List String) : String :=
  opening ++ String.intercalate ", " parts ++ closing

mutual

/-- The text of the value as a part of a list or a mapping. -/
def nestedText : Value → String
  | .undefined => "undefined"
  | .none => "None"
  | .bool b => boolText b
  | .int n _ => toString n
  | .float x => floatText nestedNumberLayout x
  | .text s _ => Text.quoted s
  | .list form items => form.text?.getD (bracketed "[" "]" (itemTexts items))
  | .map form entries => form.text?.getD (bracketed "\x7b" "\x7d" (entryTexts entries))
  | .reference source => source.text
  | .function name => functionText name
  | .broken reason => "<invalid value: " ++ reason ++ ">"

/-- The texts of the items of a list. -/
def itemTexts : List Value → List String
  | [] => []
  | item :: items => nestedText item :: itemTexts items

/-- The texts of the entries of a mapping. -/
def entryTexts : List (Value × Value) → List String
  | [] => []
  | (key, value) :: entries => (nestedText key ++ ": " ++ nestedText value) :: entryTexts entries

end

/-- The text of the value. -/
def toText : Value → String
  | .undefined => ""
  | .float x => floatText numberLayout x
  | .text s _ => s
  | value => value.nestedText

end Value

end TemplateCatalog.Template
