import TemplateCatalog.Item.Profile
import TemplateCatalog.Source.Decode

/-!
# Filters

A filter selects items by what their profiles say. Each field that is set has to match; a filter
without fields matches everything.
-/

namespace TemplateCatalog

open Item (Profile Status State)

/-- A filter on profiles. -/
structure Filter where
  /-- The status that an item has to have. -/
  status : Option Status
  /-- The group that an item has to be in. -/
  group : Option String
  /-- A tag that an item has to have. -/
  tag : Option String
  /-- The state that an item has to be in. -/
  state : Option State
  deriving DecidableEq, Repr

namespace Filter

/-- The filter that matches everything. -/
def all : Filter :=
  ⟨none, none, none, none⟩

/-- The profile matches every field that is set. -/
def admits (filter : Filter) (profile : Profile) : Bool :=
  filter.status.all (profile.status == ·) &&
    filter.group.all (profile.group == some ·) &&
    filter.tag.all (profile.tags.contains ·) &&
    filter.state.all (profile.state == ·)

/-- Read the filter under the cursor. -/
def decode (cursor : Source.Cursor) : Source.Decode Filter := do
  let found ← cursor.record ["status", "group", "tag", "runtime_state"]
  return {
    status := ← Source.Cursor.field found "status" none (·.optional (·.variant Status.ofName?))
    group := ← Source.Cursor.field found "group" none (·.optional (·.text))
    tag := ← Source.Cursor.field found "tag" none (·.optional (·.text))
    state :=
      ← Source.Cursor.field found "runtime_state" none (·.optional (·.variant State.ofName?)) }

/-- The filter that an untyped value describes. -/
def ofValue? (value : Json.Value) : Option Filter :=
  (Source.Document.ofValue value).decode decode

/-- A filter without fields matches everything. -/
@[simp]
theorem admits_all (profile : Profile) : Filter.all.admits profile = true := rfl

end Filter

end TemplateCatalog
