import TemplateCatalog.Item.Profile
import TemplateCatalog.Path
import TemplateCatalog.Source.Reader

/-!
# The registry

An optional document at the content root that overrides what items say about themselves: it puts
them into groups, decides who may see them, and withdraws them. It is read once for each
generation. Items without an entry are left alone.

Main statements:

* `override_none`, `state_override`, `origin_override`: what an entry changes, and what it does not.
-/

namespace TemplateCatalog

open Item (Profile Visibility)

/-- The override for one item. -/
structure RegistryEntry where
  /-- The group the item belongs to. -/
  group : Option String
  /-- Who may see the item. -/
  visibility : Visibility
  /-- The item is withdrawn. -/
  deprecated : Bool
  deriving DecidableEq, Repr

/-- The overrides by the ids of the items. -/
structure Registry where
  /-- The entries. -/
  entries : Fields RegistryEntry
  deriving DecidableEq, Repr

/-- Read the override under the cursor. -/
def RegistryEntry.decode (cursor : Source.Cursor) : Source.Decode RegistryEntry := do
  let found ← cursor.record ["group", "visibility", "deprecated"]
  return {
    group := ← Source.Cursor.field found "group" none (·.optional (·.text))
    visibility := ← Source.Cursor.field found "visibility" .open (·.variant Visibility.ofName?)
    deprecated := ← Source.Cursor.field found "deprecated" false (·.flag) }

namespace Registry

/-- The registry without entries. -/
def empty : Registry :=
  ⟨[]⟩

/-- The names of registry files, the first one that is there counting. -/
def fileNames : List String :=
  ["registry.yaml", "registry.yml", "registry.json"]

/-- A file of this name at the content root is a registry. -/
def isFileName (name : String) : Bool :=
  fileNames.contains name

/-- The name of the registry file among the files that are there. -/
def chooseName? (present : String → Bool) : Option String :=
  fileNames.find? present

/-- The registry file of a root directory among the files that are there. -/
def findIn? (root : Path) (files : List Path) : Option Path :=
  (chooseName? fun name => files.any (·.sameSteps (root.join ⟨name⟩))).map (root.join ⟨·⟩)

/-- Read the registry under the cursor. -/
def decode (cursor : Source.Cursor) : Source.Decode Registry := do
  let found ← cursor.record ["entries"]
  return ⟨← Source.Cursor.field found "entries" [] (·.fields RegistryEntry.decode)⟩

/-- The registry that a text holds. -/
def parse? (format : Format) (text : String) : Option Registry :=
  Source.read? format decode text

/-- The message about a text that holds no registry. The words of the parser come after it, which
depend on the text alone. -/
def malformedMessage (format : Format) : String :=
  "Invalid registry " ++ format.title

/-- The entry of an item. -/
def find? (id : String) (registry : Registry) : Option RegistryEntry :=
  Fields.find? id registry.entries

end Registry

/-- The profile of an item with its registry entry applied. -/
def Item.Profile.override (profile : Profile) (entry : Option RegistryEntry) : Profile :=
  match entry with
  | none => profile
  | some entry =>
    { profile with
      state := if entry.deprecated then .disabled else profile.state
      origin := .registry
      group := entry.group
      visibility := some entry.visibility }

/-- Without an entry a profile stays as it is. -/
@[simp]
theorem Item.Profile.override_none (profile : Profile) : profile.override none = profile := rfl

/-- An entry disables an item exactly if it withdraws it. -/
theorem Item.Profile.state_override (profile : Profile) (entry : RegistryEntry) :
    (profile.override (some entry)).state =
      if entry.deprecated then .disabled else profile.state := rfl

/-- Every entry makes the registry the origin of the classification. -/
theorem Item.Profile.origin_override (profile : Profile) (entry : RegistryEntry) :
    (profile.override (some entry)).origin = .registry := rfl

end TemplateCatalog
