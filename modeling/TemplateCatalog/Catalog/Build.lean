import TemplateCatalog.Catalog.Documents
import TemplateCatalog.Registry.File

/-!
# Building generations

A generation is built from what a scan has found: first the registry, then the partials, then the
documents. Whatever is wrong with a source costs that source its place and goes into the report;
the building itself never fails.
-/

namespace TemplateCatalog

/-- All that became of the sources that a scan has found. -/
structure Build where
  /-- What the scan has found. -/
  findings : Findings
  /-- The registry, or why there is none; nothing if the scan has found none. -/
  registry : Option (Except RegistryFault Registry)
  /-- The verdicts on the partials, in order. -/
  partials : List (Location × PartialVerdict)
  /-- The verdicts on the documents, in order. -/
  documents : List (Location × DocumentVerdict)
  /-- The templates and items. -/
  draft : Draft

namespace Build

/-- The registry that counts, which is empty if none can be read. -/
def registryOr (registry : Option (Except RegistryFault Registry)) : Registry :=
  match registry with
  | some (.ok registry) => registry
  | _ => .empty

/-- Load all that a scan has found. -/
def ofFindings (fs : FileSystem) (findings : Findings) : Build :=
  let registry := findings.registry.map (Registry.load fs)
  let (partials, templates) := TemplateSet.empty.loadPartials fs findings.partials
  let (documents, draft) :=
    (Draft.mk templates []).loadDocuments fs (registryOr registry) findings.documents
  { findings, registry, partials, documents, draft }

/-- The error about a directory that could not be listed. -/
def scanError (failure : Location × IoError) : LoadError :=
  .make failure.1.path none .io failure.2.message

/-- The warning about a registry that is there and gives nothing. -/
def registryWarning? (build : Build) : Option LoadWarning :=
  match build.findings.registry, build.registry with
  | some location, some (.error fault) =>
    some {
      path := location.path
      id := none
      message := "registry ignored: " ++ fault.message
      text := fault.text? }
  | _, _ => none

/-- The errors of the partials, in order. -/
def partialErrors (build : Build) : List LoadError :=
  build.partials.filterMap fun (location, verdict) => verdict.error? location

/-- The errors of the documents, in order. -/
def documentErrors (build : Build) : List LoadError :=
  build.documents.filterMap fun (location, verdict) => verdict.error? location

/-- All errors, in order. -/
def errors (build : Build) : List LoadError :=
  build.findings.failures.map scanError ++ build.partialErrors ++ build.documentErrors

/-- All warnings, in order. -/
def warnings (build : Build) : List LoadWarning :=
  build.registryWarning?.toList ++
    (build.partials.filterMap fun (location, verdict) => verdict.warning? location) ++
    (build.documents.flatMap fun (location, verdict) => verdict.warnings location)

/-- The generation of the given number. -/
def generation (number : Nat) (build : Build) : Generation :=
  .ofItems number build.draft.templates.library build.draft.items

/-- The report about the generation of the given number. -/
def report (number : Nat) (build : Build) : LoadReport where
  generation := number
  compiledCount := (build.generation number).items.length
  errors := build.errors
  warnings := build.warnings

end Build

end TemplateCatalog
