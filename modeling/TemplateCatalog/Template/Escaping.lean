import TemplateCatalog.Template.Value

/-!
# Escaping

How values are written into documents whose notation gives some characters a meaning of their own.
The name of a template says what it is escaped for: names that end in `.html`, `.htm` or `.xml`,
before an extension of templates, are escaped for markup.

Main statement: `markupText_of_plain`, a text without special characters is written as it is.
-/

namespace TemplateCatalog.Template

/-- How values are escaped. -/
inductive Escaping where
  /-- Values are written as they are. -/
  | plain
  /-- Values are escaped for markup. -/
  | markup
  deriving DecidableEq, Repr

/-- The characters that a character is written as in markup. -/
def markupChar (c : Char) : List Char :=
  if c = '<' then "&lt;".toList
  else if c = '>' then "&gt;".toList
  else if c = '&' then "&amp;".toList
  else if c = '"' then "&quot;".toList
  else if c.toNat = 0x27 then "&#x27;".toList
  else if c = '/' then "&#x2f;".toList
  else [c]

/-- The text as it is written in markup. -/
def markupText (s : String) : String :=
  String.ofList (s.toList.flatMap markupChar)

/-- The text that a value is written as. -/
def Escaping.write (escaping : Escaping) (value : Value) : String :=
  match escaping, value with
  | .plain, value => value.toText
  | .markup, .text s safe => if safe then s else markupText s
  | .markup, value =>
    match value.kind with
    | .undefined | .none | .bool | .number => value.toText
    | _ => markupText value.toText

/-- The text of a finished section, which is not escaped again. -/
def Escaping.finished (escaping : Escaping) (s : String) : Value :=
  .text s (escaping ≠ .plain)

/-- The extensions of names that say nothing about escaping. -/
def neutralExtensions : List String :=
  [".j2", ".jinja2", ".jinja"]

/-- The text without an ending. -/
def dropEnding? (ending s : String) : Option String :=
  if ending.toList.isSuffixOf s.toList then
    some (String.ofList (s.toList.take (s.length - ending.length)))
  else none

/-- How a template of the given name is escaped. -/
def Escaping.ofName (name : String) : Escaping :=
  let bare := (neutralExtensions.findSome? (dropEnding? · name)).getD name
  let last := String.ofList (bare.toList.reverse.takeWhile (· ≠ '.')).reverse
  if last = "html" ∨ last = "htm" ∨ last = "xml" then .markup else .plain

/-- A text without special characters is written as it is. -/
theorem markupText_of_plain {s : String} (plain : ∀ c ∈ s.toList, markupChar c = [c]) :
    markupText s = s := by
  have flat : s.toList.flatMap markupChar = s.toList := by
    generalize s.toList = cs at plain ⊢
    induction cs with
    | nil => rfl
    | cons c cs ih =>
      rw [List.flatMap_cons, plain c (by simp), ih fun d member => plain d (by simp [member])]
      rfl
  rw [markupText, flat, String.ofList_toList]

end TemplateCatalog.Template
