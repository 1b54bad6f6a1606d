import TemplateCatalog.Item.Profile
import TemplateCatalog.Item.Version
import TemplateCatalog.Text.Blank

/-!
# Judging metadata

An item is classified by its metadata block alone; the id and the title of the document fill in
what the block leaves out. A block without a version and a status says nothing about the item,
which is then a legacy item. Otherwise every flaw of the block is an issue: a block that names
another id makes the item invalid, any other issue makes it a warning, and a block without issues
makes it active.
-/

namespace TemplateCatalog.Item

/-- The version that items without one are given. -/
def legacyVersion : String :=
  "0.0.0"

/-- A flaw of a metadata block. -/
inductive Issue where
  /-- The block is no object. -/
  | notAMapping
  /-- A field that should be a text is blank. -/
  | blankText (field : String)
  /-- A field that should be a text is something else. -/
  | notAText (field : String)
  /-- A list of texts has other members. -/
  | notAllTexts (field : String)
  /-- A field that should be a list is something else. -/
  | notAList (field : String)
  /-- The dependencies are no object. -/
  | dependenciesNotAMapping
  /-- A field that should be there is missing. -/
  | missing (field : String)
  /-- The version does not have the shape of one. -/
  | badVersion (version : String)
  /-- The status is none that an item may declare. -/
  | badStatus (status : String)
  /-- The block is about another item. -/
  | otherId (declared : String) (actual : String)
  deriving DecidableEq, Repr

/-- The message about an issue. -/
def Issue.message : Issue → String
  | .notAMapping => "metadata must be a mapping"
  | .blankText field => "'" ++ field ++ "' must not be empty"
  | .notAText field => "'" ++ field ++ "' must be a string"
  | .notAllTexts field => "'" ++ field ++ "' must only contain strings"
  | .notAList field => "'" ++ field ++ "' must be a list"
  | .dependenciesNotAMapping => "'dependencies' must be a mapping"
  | .missing field => "metadata is missing '" ++ field ++ "'"
  | .badVersion version =>
    "version '" ++ version ++ "' is not semantic versioning (expected e.g. 1.0.0)"
  | .badStatus status => "status '" ++ status ++ "' is not one of draft, stable, deprecated"
  | .otherId declared actual =>
    "metadata id '" ++ declared ++ "' does not match document id '" ++ actual ++ "'"

/-- What the metadata of an item amounts to. -/
structure Judgement where
  /-- The classification of the item. -/
  profile : Profile
  /-- The partials that the item says it needs. -/
  partials : List String
  /-- The flaws of the block. -/
  issues : List Issue
  deriving DecidableEq, Repr

/-- A value that was looked for, with the issues that came up. -/
abbrev Found (α : Type) : Type :=
  α × List Issue

/-- The text of a field, which is missing if it is blank or something else. -/
def textField (fields : Fields Json.Value) (name : String) : Found (Option String) :=
  match fields.find? name with
  | none | some .null => (none, [])
  | some (.string text) =>
    if Text.isBlankText text then (none, [.blankText name]) else (some text, [])
  | some _ => (none, [.notAText name])

/-- The texts of a list, the other members passed over. -/
def textList (value : Option Json.Value) (name : String) : Found (List String) :=
  match value with
  | none | some .null => ([], [])
  | some (.array items) =>
    let texts := items.filterMap Json.Value.string?
    (texts, if texts.length = items.length then [] else [.notAllTexts name])
  | some _ => ([], [.notAList name])

/-- The partials among the dependencies. -/
def dependencyPartials (fields : Fields Json.Value) : Found (List String) :=
  match fields.find? "dependencies" with
  | none | some .null => ([], [])
  | some (.object dependencies) =>
    textList (Fields.find? "partials" dependencies) "dependencies.partials"
  | some _ => ([], [.dependenciesNotAMapping])

/-- The field is absent or null. -/
def isAbsent (fields : Fields Json.Value) (name : String) : Bool :=
  match fields.find? name with
  | none | some .null => true
  | some _ => false

/-- The fields that every block should have and this one has not. -/
def missingFields (fields : Fields Json.Value) : List Issue :=
  (["id", "title", "version", "status"].filter (isAbsent fields)).map .missing

/-- The status that a block declares, which is `draft` if it declares none. -/
def declaredStatus : Option String → Found Status
  | none => (.draft, [])
  | some raw =>
    match Status.ofDeclared? raw with
    | some status => (status, [])
    | none => (.draft, [.badStatus raw])

/-- The judgement of an item without metadata. -/
def Judgement.legacy (id title : String) : Judgement where
  profile :=
    { id, title, version := legacyVersion, status := .legacy, tags := [], useCases := [],
      state := .legacy, origin := .legacy, group := none, visibility := none }
  partials := []
  issues := []

/-- The judgement of an item by the fields of its block. -/
def Judgement.ofFields (id title : String) (fields : Fields Json.Value) : Judgement :=
  let declaredId := textField fields "id"
  let declaredTitle := textField fields "title"
  let version := textField fields "version"
  let rawStatus := textField fields "status"
  let tags := textList (fields.find? "tags") "tags"
  let useCases := textList (fields.find? "use_cases") "use_cases"
  let partials := dependencyPartials fields
  let status := declaredStatus rawStatus.1
  let versionIssues := (version.1.toList.filter fun v => !isVersion v).map Issue.badVersion
  let idIssues := (declaredId.1.toList.filter fun d => d ≠ id).map fun d => Issue.otherId d id
  let issues :=
    declaredId.2 ++ declaredTitle.2 ++ version.2 ++ rawStatus.2 ++ tags.2 ++ useCases.2 ++
      partials.2 ++ missingFields fields ++ versionIssues ++ status.2 ++ idIssues
  { profile :=
      { id
        title := declaredTitle.1.getD title
        version := version.1.getD legacyVersion
        status := status.1
        tags := tags.1
        useCases := useCases.1
        state :=
          if idIssues ≠ [] then .invalid else if issues = [] then .active else .warning
        origin := .embedded
        group := none
        visibility := none }
    partials := partials.1
    issues }

/-- Judge an item by its metadata. -/
def judge (id title : String) (metadata : Option Json.Value) : Judgement :=
  match metadata with
  | none | some .null => .legacy id title
  | some (.object fields) =>
    if Fields.has "version" fields || Fields.has "status" fields then
      .ofFields id title fields
    else .legacy id title
  | some _ =>
    { profile :=
        { id, title, version := legacyVersion, status := .draft, tags := [], useCases := [],
          state := .warning, origin := .embedded, group := none, visibility := none }
      partials := []
      issues := [.notAMapping] }

/-- The judgement as a printable record. -/
def Judgement.fields (judgement : Judgement) : List (String × Json.Tree) :=
  [("runtime", judgement.profile.tree),
    ("declared_partials", .strings judgement.partials),
    ("issues", .strings (judgement.issues.map Issue.message))]

end TemplateCatalog.Item
