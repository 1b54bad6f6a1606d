import TemplateCatalog.Template.Execution
import TemplateCatalog.Template.Reader.Statement

/-!
# Template sets

The templates of one generation: the partials under their own names, and the templates of the
items under names that no partial can have. A template that cannot be compiled leaves the set as
it is.

Main statement: `find?_addPartial`, what a set holds after a partial is added.
-/

namespace TemplateCatalog

open Template (Library)

/-- The name that the template of an item has among the templates of its generation. -/
def itemTemplateName (id : String) : String :=
  "items/" ++ id

/-- The templates of a generation that is being built. -/
structure TemplateSet where
  /-- The names of the partials. -/
  partials : List String
  /-- All templates by name. -/
  library : Library

namespace TemplateSet

/-- The set without templates. -/
def empty : TemplateSet :=
  ⟨[], []⟩

/-- A partial has the name. -/
def hasPartial (name : String) (set : TemplateSet) : Bool :=
  set.partials.contains name

/-- The set with another partial. -/
def addPartial (name source : String) (set : TemplateSet) :
    Except Template.Fault TemplateSet := do
  let template ← Template.Compiled.read source
  return ⟨set.partials ++ [name], Fields.insert name template set.library⟩

/-- The set with the template of another item. -/
def addItem (id source : String) (set : TemplateSet) : Except Template.Fault TemplateSet := do
  let template ← Template.Compiled.read source
  return { set with library := Fields.insert (itemTemplateName id) template set.library }

/-- Under its name an added partial is found, and nothing changes under other names. -/
theorem find?_addPartial {name source : String} {template : Template.Compiled}
    {set after : TemplateSet} (read : Template.Compiled.read source = .ok template)
    (added : set.addPartial name source = .ok after) (other : String) :
    after.library.find? other =
      if other = name then some template else set.library.find? other := by
  simp only [addPartial, read, bind, Except.bind, pure, Except.pure, Except.ok.injEq] at added
  subst added
  exact Fields.find?_insert name other template set.library

end TemplateSet

end TemplateCatalog
