import TemplateCatalog.Json.Printer

/-!
# Profiles of items

The externally visible classification of an item: what it declares about itself, the state the
catalog gives it, and what the registry adds.
-/

namespace TemplateCatalog.Item

/-- How far along an item is. -/
inductive Status where
  /-- Still being written. -/
  | draft
  /-- Ready for use. -/
  | stable
  /-- Still there, and not to be used any more. -/
  | deprecated
  /-- The status of items without metadata, which no item declares for itself. -/
  | legacy
  deriving DecidableEq, Repr, Inhabited

namespace Status

/-- The name of the status. -/
def name : Status → String
  | .draft => "draft"
  | .stable => "stable"
  | .deprecated => "deprecated"
  | .legacy => "legacy"

/-- Every status. -/
def all : List Status :=
  [.draft, .stable, .deprecated, .legacy]

/-- The status with the given name. -/
def ofName? (name : String) : Option Status :=
  all.find? (·.name == name)

/-- The status with the given name, among those that an item may declare. -/
def ofDeclared? (name : String) : Option Status :=
  [Status.draft, .stable, .deprecated].find? (·.name == name)

/-- The message about a name that is no status. -/
def unknownMessage (name : String) : String :=
  "unknown status '" ++ name ++ "'"

/-- Every status is found under its own name. -/
theorem ofName?_name (status : Status) : ofName? status.name = some status := by
  cases status <;> decide

/-- What an item may declare is every status but `legacy`. -/
theorem ofDeclared?_name (status : Status) :
    ofDeclared? status.name = if status = .legacy then none else some status := by
  cases status <;> decide

end Status

/-- The state that the catalog gives an item. -/
inductive State where
  /-- The metadata is complete and sound. -/
  | active
  /-- There is no metadata to speak of. -/
  | legacy
  /-- The metadata is about another item. -/
  | invalid
  /-- The registry has withdrawn the item. -/
  | disabled
  /-- The metadata has flaws. -/
  | warning
  deriving DecidableEq, Repr, Inhabited

namespace State

/-- The name of the state. -/
def name : State → String
  | .active => "active"
  | .legacy => "legacy"
  | .invalid => "invalid"
  | .disabled => "disabled"
  | .warning => "warning"

/-- The states in the order in which they are counted. -/
def all : List State :=
  [.active, .legacy, .invalid, .disabled, .warning]

/-- The state with the given name. -/
def ofName? (name : String) : Option State :=
  all.find? (·.name == name)

/-- The message about a name that is no state. -/
def unknownMessage (name : String) : String :=
  "unknown runtime state '" ++ name ++ "'"

/-- Every state is found under its own name. -/
theorem ofName?_name (state : State) : ofName? state.name = some state := by
  cases state <;> decide

end State

/-- Where the classification of an item comes from. -/
inductive Origin where
  /-- The item's own metadata. -/
  | embedded
  /-- The registry. -/
  | registry
  /-- Nowhere: the item has no metadata. -/
  | legacy
  deriving DecidableEq, Repr, Inhabited

/-- The name of the origin. -/
def Origin.name : Origin → String
  | .embedded => "embedded"
  | .registry => "registry"
  | .legacy => "legacy"

/-- The origin with the given name. -/
def Origin.ofName? (name : String) : Option Origin :=
  [Origin.embedded, .registry, .legacy].find? (·.name == name)

/-- Who may see an item. -/
inductive Visibility where
  /-- Everyone. -/
  | open
  /-- Its owner. -/
  | closed
  /-- The house. -/
  | internal
  deriving DecidableEq, Repr, Inhabited

/-- The name of the visibility. -/
def Visibility.name : Visibility → String
  | .open => "public"
  | .closed => "private"
  | .internal => "internal"

/-- The visibility with the given name. -/
def Visibility.ofName? (name : String) : Option Visibility :=
  [Visibility.open, .closed, .internal].find? (·.name == name)

/-- The classification of an item. -/
structure Profile where
  /-- The id of the item. -/
  id : String
  /-- The title that the metadata gives it, or else the document. -/
  title : String
  /-- The version of the item. -/
  version : String
  /-- The status of the item. -/
  status : Status
  /-- The tags of the item. -/
  tags : List String
  /-- What the item is used for. -/
  useCases : List String
  /-- The state that the catalog gives the item. -/
  state : State
  /-- Where the classification comes from. -/
  origin : Origin
  /-- The group that the registry puts the item into. -/
  group : Option String
  /-- Who may see the item, according to the registry. -/
  visibility : Option Visibility
  deriving DecidableEq, Repr, Inhabited

/-- The profile as a printable record. -/
def Profile.tree (profile : Profile) : Json.Tree :=
  .record <|
    [("id", .string profile.id),
      ("title", .string profile.title),
      ("version", .string profile.version),
      ("status", .string profile.status.name),
      ("tags", .strings profile.tags),
      ("use_cases", .strings profile.useCases),
      ("runtime_state", .string profile.state.name),
      ("source", .string profile.origin.name)] ++
    (profile.group.map fun group => ("group", Json.Tree.string group)).toList ++
    (profile.visibility.map fun seen => ("visibility", Json.Tree.string seen.name)).toList

end TemplateCatalog.Item
