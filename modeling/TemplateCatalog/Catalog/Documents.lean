import TemplateCatalog.Catalog.Generation
import TemplateCatalog.Catalog.Partials
import TemplateCatalog.Catalog.Scan

/-!
# Loading documents

Documents become items one after the other. The first document of an id that makes a whole item
owns the id; a document that fails on the way leaves it to the next one. The partials that a
document says it needs are looked up once its id is known to be free, and those that are not there
are reported even if the document turns out not to make an item.

Main statements:

* `map_fst_loadDocuments`: every document gets a verdict, in order.
-/

namespace TemplateCatalog

/-- Why a document makes no item. -/
inductive DocumentFlaw where
  /-- The file could not be read. -/
  | unreadable (cause : IoError)
  /-- The text holds no document. -/
  | malformed (format : Format) (text : String)
  /-- The document defines no item. -/
  | defective (defect : Item.Defect)
  /-- Another document owns the id. -/
  | duplicate (id : String) (owner : Location)
  /-- The declarations of the arguments make no schema that can be used. -/
  | unusable (id : String) (fault : Url.Fault)
  /-- The template could not be compiled. -/
  | broken (id : String) (fault : Template.Fault) (template : String)
  deriving DecidableEq, Repr

namespace DocumentFlaw

/-- The error about a document. -/
def error (location : Location) : DocumentFlaw → LoadError
  | .unreadable cause => .make location.path none .io cause.message
  | .malformed format text =>
    (LoadError.make location.path none .parse (Item.Document.malformedMessage format)).about text
  | .defective .missingId =>
    .make location.path none .missingId (Item.Defect.message .missingId)
  | .defective (.missingTemplate id) =>
    .make location.path (some id) .missingTemplate (Item.Defect.message (.missingTemplate id))
  | .duplicate id owner =>
    .make location.path (some id) .duplicateId
      ("id '" ++ id ++ "' is already defined by " ++ owner.text)
  | .unusable id fault => .make location.path (some id) .schema fault.message
  | .broken id fault template =>
    (LoadError.make location.path (some id) .template fault.text).about template

end DocumentFlaw

/-- What becomes of a document. -/
structure DocumentVerdict where
  /-- The id of the document and the partials it needs that are not there. -/
  missing : List (String × String)
  /-- The item that the document makes, or why it makes none. -/
  outcome : Except DocumentFlaw CatalogItem

namespace DocumentVerdict

/-- The verdict on a document that is given up before its partials are looked up. -/
def flawed (flaw : DocumentFlaw) : DocumentVerdict :=
  ⟨[], .error flaw⟩

/-- The item that the document makes. -/
def item? (verdict : DocumentVerdict) : Option CatalogItem :=
  verdict.outcome.toOption

/-- The error about a document with a verdict. -/
def error? (location : Location) (verdict : DocumentVerdict) : Option LoadError :=
  match verdict.outcome with
  | .ok _ => none
  | .error flaw => some (flaw.error location)

/-- The warnings about a document with a verdict. -/
def warnings (location : Location) (verdict : DocumentVerdict) : List LoadWarning :=
  verdict.missing.map fun (id, name) =>
    { path := location.path
      id := some id
      message := "declared partial '" ++ name ++ "' does not exist" }

end DocumentVerdict

/-- The text of the document at a location as an item. -/
def readItem (fs : FileSystem) (location : Location) : Except DocumentFlaw Item.Validated :=
  match fs.readText location.path with
  | .error cause => .error (.unreadable cause)
  | .ok source =>
    let format := location.format?.getD .yaml
    match Item.Document.parse? format source with
    | none => .error (.malformed format source)
    | some document =>
      match document.validate with
      | .error defect => .error (.defective defect)
      | .ok item => .ok item

/-- A generation that is being built. -/
structure Draft where
  /-- The templates so far. -/
  templates : TemplateSet
  /-- The items so far. -/
  items : List CatalogItem

namespace Draft

/-- The document that owns an id. -/
def owner? (id : String) (draft : Draft) : Option Location :=
  (draft.items.find? (·.id == id)).map CatalogItem.source

/-- Load an item whose id is free. -/
def addItem (registry : Registry) (location : Location) (item : Item.Validated) (draft : Draft) :
    DocumentVerdict × Draft :=
  let id := item.definition.id
  let missing := item.judgement.partials.filter fun name => !draft.templates.hasPartial name
  let missing := missing.map fun name => (id, name)
  match item.definition.arguments.check with
  | .error fault => (⟨missing, .error (.unusable id fault)⟩, draft)
  | .ok () =>
    match draft.templates.addItem id item.definition.template with
    | .error fault => (⟨missing, .error (.broken id fault item.definition.template)⟩, draft)
    | .ok templates =>
      let added : CatalogItem :=
        { definition := item.definition
          profile := item.judgement.profile.override (registry.find? id)
          source := location }
      (⟨missing, .ok added⟩, ⟨templates, draft.items ++ [added]⟩)

/-- Load the document at a location. -/
def loadDocument (fs : FileSystem) (registry : Registry) (location : Location) (draft : Draft) :
    DocumentVerdict × Draft :=
  match readItem fs location with
  | .error flaw => (.flawed flaw, draft)
  | .ok item =>
    let id := item.definition.id
    match draft.owner? id with
    | some owner => (.flawed (.duplicate id owner), draft)
    | none => draft.addItem registry location item

/-- Load the documents at several locations, one after the other. -/
def loadDocuments (fs : FileSystem) (registry : Registry) :
    List Location → Draft → List (Location × DocumentVerdict) × Draft
  | [], draft => ([], draft)
  | location :: locations, draft =>
    let (verdict, after) := draft.loadDocument fs registry location
    let (verdicts, final) := loadDocuments fs registry locations after
    ((location, verdict) :: verdicts, final)

/-- Every document gets a verdict, in order. -/
theorem map_fst_loadDocuments (fs : FileSystem) (registry : Registry) (locations : List Location)
    (draft : Draft) : (loadDocuments fs registry locations draft).1.map Prod.fst = locations := by
  induction locations generalizing draft with
  | nil => rfl
  | cons location locations ih => simp [loadDocuments, ih]

/-- The items that loading a document adds are the one that its verdict names. -/
theorem items_loadDocument (fs : FileSystem) (registry : Registry) (location : Location)
    (draft : Draft) :
    (draft.loadDocument fs registry location).2.items =
      draft.items ++ (draft.loadDocument fs registry location).1.item?.toList := by
  unfold loadDocument
  split
  · simp [DocumentVerdict.flawed, DocumentVerdict.item?, Except.toOption]
  · dsimp only
    split
    · simp [DocumentVerdict.flawed, DocumentVerdict.item?, Except.toOption]
    · unfold addItem
      dsimp only
      split
      · simp [DocumentVerdict.item?, Except.toOption]
      · split <;> simp [DocumentVerdict.item?, Except.toOption]

end Draft

end TemplateCatalog
