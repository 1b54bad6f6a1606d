import TemplateCatalog.Catalog.Report
import TemplateCatalog.Catalog.TemplateSet
import TemplateCatalog.Tree.Lookup

/-!
# Loading partials

Partials are registered under the names of their files without the extensions. The first usable
file of a name gets it; a file that cannot be read or compiled leaves the name to the next one.

Main statements:

* `map_fst_loadPartials`: every file gets a verdict, in order.
-/

namespace TemplateCatalog

/-- What becomes of the file of a partial. -/
inductive PartialVerdict where
  /-- The partial is registered. -/
  | registered
  /-- The name is taken. -/
  | shadowed
  /-- The file could not be read. -/
  | unreadable (cause : IoError)
  /-- The text is no template. -/
  | broken (fault : Template.Fault) (text : String)
  deriving DecidableEq, Repr

namespace PartialVerdict

/-- The error about a file with a verdict. -/
def error? (location : Location) : PartialVerdict → Option LoadError
  | .registered | .shadowed => none
  | .unreadable cause => some (.make location.path (some location.stem) .io cause.message)
  | .broken fault text =>
    some ((LoadError.make location.path (some location.stem) .template fault.text).about text)

/-- The warning about a file with a verdict. -/
def warning? (location : Location) : PartialVerdict → Option LoadWarning
  | .shadowed =>
    some {
      path := location.path
      id := none
      message := "partial '" ++ location.stem ++ "' is already defined, this copy is ignored" }
  | _ => none

end PartialVerdict

namespace TemplateSet

/-- Load the partial at a location. -/
def loadPartial (fs : FileSystem) (location : Location) (set : TemplateSet) :
    PartialVerdict × TemplateSet :=
  if set.hasPartial location.stem then (.shadowed, set)
  else
    match fs.readText location.path with
    | .error cause => (.unreadable cause, set)
    | .ok source =>
      match set.addPartial location.stem source with
      | .error fault => (.broken fault source, set)
      | .ok after => (.registered, after)

/-- Load the partials at several locations, one after the other. -/
def loadPartials (fs : FileSystem) :
    List Location → TemplateSet → List (Location × PartialVerdict) × TemplateSet
  | [], set => ([], set)
  | location :: locations, set =>
    let (verdict, after) := set.loadPartial fs location
    let (verdicts, final) := loadPartials fs locations after
    ((location, verdict) :: verdicts, final)

/-- Every location gets a verdict, in order. -/
theorem map_fst_loadPartials (fs : FileSystem) (locations : List Location) (set : TemplateSet) :
    (loadPartials fs locations set).1.map Prod.fst = locations := by
  induction locations generalizing set with
  | nil => rfl
  | cons location locations ih => simp [loadPartials, ih]

end TemplateSet

end TemplateCatalog
