import TemplateCatalog.Catalog.Service
import TemplateCatalog.CommandLine.Table

/-!
# Pages

What the commands print for people to read, line by line.
-/

namespace TemplateCatalog.CommandLine

open Item (Profile State)

/-- The cells of an item in the list of items. -/
def profileCells (profile : Profile) : List String := [
  profile.id, profile.title, profile.version, profile.status.name, profile.state.name,
  profile.origin.name, profile.group.getD "-"]

/-- The list of items as a table. -/
def profileTable (profiles : List Profile) : Table where
  header := ["ID", "Title", "Version", "Status", "State", "Source", "Group"]
  headerAlignment := .center
  rows := profiles.map profileCells

/-- The list of items. -/
def listPage (profiles : List Profile) : List String :=
  if profiles.isEmpty then ["No items match."]
  else ["Found " ++ toString profiles.length ++ " items", "", (profileTable profiles).render]

/-- The numbers of items as a table. -/
def censusTable (census : Census) : Table where
  header := ["State", "Items"]
  headerAlignment := .left
  rows := State.all.map fun state => [state.name, toString (census.count state)]

/-- The numbers of items. -/
def countPage (census : Census) : List String := [
  "Generation " ++ toString census.generation ++ " (" ++ toString census.total ++ " items)", "",
  (censusTable census).render]

/-- The line about an argument. -/
def argumentLine (name : String) (argument : Item.Argument) : String :=
  let required := if argument.required then " (required)" else ""
  let default := argument.default.elim "" fun value => " [default: " ++ value.compact ++ "]"
  "  " ++ name ++ ": " ++ argument.kind.name ++ required ++ default

/-- An item in detail. -/
def itemPage (item : CatalogItem) : List String :=
  let profile := item.profile
  let texts (label : String) (texts : List String) : List String :=
    if texts.isEmpty then [] else [label ++ ", ".intercalate texts]
  [profile.title ++ " (" ++ profile.id ++ ")",
    "  version:  " ++ profile.version,
    "  status:   " ++ profile.status.name,
    "  state:    " ++ profile.state.name,
    "  source:   " ++ profile.origin.name] ++
  (profile.group.map ("  group:    " ++ ·)).toList ++
  texts "  tags:     " profile.tags ++
  texts "  use cases: " profile.useCases ++
  ["  file:     " ++ item.source.text] ++
  (item.definition.description.elim [] fun text => ["", text]) ++
  (if item.definition.arguments.isEmpty then []
    else ["", "Arguments:"] ++ item.definition.arguments.map fun (name, argument) =>
      argumentLine name argument)

/-- A load report. -/
def reportPage (root : Path) (report : LoadReport) : List String :=
  let errors := report.errors.map fun error => "  ✗ " ++ error.display
  let warnings := report.warnings.map fun warning =>
    "  ! " ++ warning.path.text ++ ": " ++ warning.message
  let headed (title : String) (lines : List String) : List String :=
    if lines.isEmpty then []
    else ["", title ++ " (" ++ toString lines.length ++ "):"] ++ lines
  ["Loaded " ++ toString report.compiledCount ++ " items from " ++ root.text] ++
  headed "Errors" errors ++ headed "Warnings" warnings ++
  (if errors.isEmpty && warnings.isEmpty then ["", "✓ No problems found"] else [])

/-- The statistics of a cache as a value, with the moment when the cache was made. -/
def statisticsValue (created : String) (statistics : CacheStatistics Location) : Json.Value :=
  .ofPairs [
    ("created_at", .string created),
    ("size", .nat statistics.size),
    ("max_size", .nat statistics.capacity),
    ("hits", .nat statistics.hits),
    ("misses", .nat statistics.misses),
    ("hit_rate", .number (.float statistics.hitRate)),
    ("expirations", .nat statistics.expirations),
    ("evictions", .nat statistics.evictions),
    ("average_access_count", .number (.float statistics.averageUses)),
    ("top_keys", .strings (statistics.topKeys.map Location.text))]

/-- A census as a value. -/
def censusValue (census : Census) : Json.Value :=
  .ofPairs [
    ("generation", .nat census.generation),
    ("total", .nat census.total),
    ("active", .nat census.active),
    ("legacy", .nat census.legacy),
    ("invalid", .nat census.invalid),
    ("disabled", .nat census.disabled),
    ("warning", .nat census.warning)]

/-- The numbers of items and the statistics of the cache, as a printable tree. -/
def countTree (created : String) (census : Census) (statistics : CacheStatistics Location) :
    Json.Tree :=
  .ofValue (.ofPairs [
    ("catalog", censusValue census), ("cache", statisticsValue created statistics)])

end TemplateCatalog.CommandLine
