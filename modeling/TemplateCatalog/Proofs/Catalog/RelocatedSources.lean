import Mathlib.Data.List.Forall2
import TemplateCatalog.Proofs.Catalog.Rejection
import TemplateCatalog.Proofs.Catalog.Relocation

/-!
# Sources of content trees in other places

What is loaded from the same content tree below two roots is the same, but for the one root standing
in place of the other: in the sources of the items, in the paths of errors and warnings, and in the
few messages that name a place. Everything else that a load looks at, from the notation of a
document to the name of a partial and the order in which files come, is read off the names below the
root and the texts of the files.

The module introduces:

* `Location.Moved`, `Path.Moved`, `MovedText`: the one root stands in place of the other;
* `CatalogItem.Moved`, `LoadError.Moved`, `LoadWarning.Moved`: items and messages that are the same
  but for the root;
* `SeenAlike`: two places have the same name and the same text;
* `Draft.Moved`: drafts of items that are the same but for the root.

Main statements:

* `FileSystem.Relocated.seenAlike`: what a load opens in the tree is seen alike below both roots.
* `SeenAlike.registry`, `TemplateSet.seenAlike_loadPartials`, `Draft.moved_loadDocuments`: files
  that are seen alike are loaded alike.
* `DocumentVerdict.Moved.error?`, `DocumentVerdict.Moved.warnings`: what is said about them is the
  same but for the root.
-/

namespace TemplateCatalog

/-! ### One root in place of another -/

/-- The two places are at the same names below the one and the other root. -/
def Location.Moved (root place a b : Location) : Prop :=
  ∃ names : List String, a = root.below names ∧ b = place.below names

/-- The two paths are those of the same names below the one and the other root. -/
def Path.Moved (root place : Location) (a b : Path) : Prop :=
  ∃ names : List String, a = (root.below names).path ∧ b = (place.below names).path

/-- The two texts are the same, or one of them names a place below the one root, and the other one
names the same place below the other root. -/
def MovedText (root place : Location) (a b : String) : Prop :=
  a = b ∨ ∃ before names after, a = before ++ (root.below names).text ++ after ∧
    b = before ++ (place.below names).text ++ after

/-- The two items are the same but for the roots of their sources. -/
structure CatalogItem.Moved (root place : Location) (a b : CatalogItem) : Prop where
  definition : a.definition = b.definition
  profile : a.profile = b.profile
  schema : a.schema = b.schema
  source : Location.Moved root place a.source b.source

/-- The two errors are the same but for the root in their paths and messages. If they are about a
text that could not be understood, it is the same text. -/
structure LoadError.Moved (root place : Location) (a b : LoadError) : Prop where
  path : a.path.Moved root place b.path
  id : a.id = b.id
  kind : a.kind = b.kind
  message : MovedText root place a.message b.message
  text : a.text = b.text

/-- The two warnings are the same but for the root in their paths and messages. If they are about a
text that could not be understood, it is the same text. -/
structure LoadWarning.Moved (root place : Location) (a b : LoadWarning) : Prop where
  path : a.path.Moved root place b.path
  id : a.id = b.id
  message : MovedText root place a.message b.message
  text : a.text = b.text

variable {fs other : FileSystem} {root place a b : Location}

theorem Location.Moved.path (hmoved : Location.Moved root place a b) :
    a.path.Moved root place b.path := by
  obtain ⟨names, rfl, rfl⟩ := hmoved
  exact ⟨names, rfl, rfl⟩

/-- A message that names a place below the one root names the same place below the other. -/
theorem Location.Moved.text (hmoved : Location.Moved root place a b) (before after : String) :
    MovedText root place (before ++ a.text ++ after) (before ++ b.text ++ after) := by
  obtain ⟨names, rfl, rfl⟩ := hmoved
  exact .inr ⟨before, names, after, rfl, rfl⟩

theorem MovedText.refl (text : String) : MovedText root place text text :=
  .inl rfl

theorem MovedText.prepend {text others : String} (hmoved : MovedText root place text others)
    (before : String) : MovedText root place (before ++ text) (before ++ others) := by
  rcases hmoved with rfl | ⟨inner, names, after, rfl, rfl⟩
  · exact .refl _
  · exact .inr ⟨before ++ inner, names, after, by simp only [String.append_assoc],
      by simp only [String.append_assoc]⟩

/-! ### Places that are seen alike -/

/-- The two places are the same but for the root, and all that can be seen of them is the same. -/
structure SeenAlike (fs other : FileSystem) (root place a b : Location) : Prop where
  moved : Location.Moved root place a b
  text : fs.readText a.path = other.readText b.path
  format : a.format? = b.format?
  stem : a.stem = b.stem
  path_stem : a.path.stem = b.path.stem

/-- A proper place has the same stem as its path. -/
theorem Location.IsProper.stem_path {location : Location} (hproper : location.IsProper)
    (hne : location.names ≠ []) : location.path.stem = location.stem := by
  -- The path begins with a slash, so its first part is empty and counts for nothing.
  have hinner : location.path.parts.filterMap (fun part =>
      if part = "" ∨ part = "." then none
      else if part = ".." then some PathStep.up
      else some (.child part)) = location.names.map PathStep.child := by
    rw [hproper.parts_path hne, List.filterMap_cons_none (by simp),
      List.filterMap_eq_map_iff_forall_eq_some]
    intro name hname
    have hentry := hproper name hname
    simp [hentry.ne_empty, hentry.ne_dot, hentry.ne_dots]
  have hsteps : location.path.steps = .top :: location.names.map PathStep.child := by
    rw [Path.steps, if_pos location.isAbsolute_path]
    exact congrArg (PathStep.top :: ·) hinner
  have hlast : location.path.name? = some (location.names.getLast hne) := by
    rw [Path.name?, hsteps, List.getLast?_cons_of_ne_nil (by simpa using hne), List.getLast?_map,
      List.getLast?_eq_some_getLast hne]
    rfl
  rw [Path.stem, hlast, Location.stem, Location.name, List.getLast?_eq_some_getLast hne]
  rfl

namespace FileSystem.Relocated

variable {tree : Tree} {location : Location}

/-- What a load opens in the tree, but for the root itself, is seen alike below both roots. -/
theorem seenAlike (hrelocated : fs.Relocated other root place tree)
    (hopened : tree.Opens location.names ∧ location.names ≠ []) :
    SeenAlike fs other root place (root.under location) (place.under location) := by
  obtain ⟨hopens, hne⟩ := hopened
  obtain ⟨node, hnode⟩ := hopens.exists_node hrelocated.wellFormed
  -- A place with names below the root has its name, format and stem from them.
  have hnames := hrelocated.wellFormed.isEntryName_of_at? hnode
  have hbelow : ∀ outer : Location, outer.IsProper →
      (outer.under location).IsProper ∧ (outer.under location).names ≠ [] := by
    intro outer houter
    refine ⟨fun name hname => ?_, by simp [Location.under, Location.below, hne]⟩
    exact (List.mem_append.mp hname).elim (houter name) (hnames name)
  obtain ⟨hproper, hrest⟩ := hbelow root hrelocated.here.proper
  obtain ⟨hotherProper, hotherRest⟩ := hbelow place hrelocated.there.proper
  exact
    { moved := ⟨location.names, rfl, rfl⟩
      text := hrelocated.readText_eq hopens
      format := (root.format?_under hne).trans (place.format?_under hne).symm
      stem := (root.stem_under hne).trans (place.stem_under hne).symm
      path_stem := by
        rw [hproper.stem_path hrest, hotherProper.stem_path hotherRest, root.stem_under hne,
          place.stem_under hne] }

end FileSystem.Relocated

/-! ### Loading what is seen alike -/

/-- Verdicts of the one load and the other are about places that are seen alike. -/
def EntriesAlike {ν : Type} (fs other : FileSystem) (root place : Location) (rel : ν → ν → Prop)
    (a b : Location × ν) : Prop :=
  SeenAlike fs other root place a.1 b.1 ∧ rel a.2 b.2

/-- Two loads of a registry come to the same but for the root. -/
inductive RegistryMoved (root place : Location) :
    Except RegistryFault Registry → Except RegistryFault Registry → Prop where
  /-- The same registry. -/
  | registry (registry : Registry) : RegistryMoved root place (.ok registry) (.ok registry)
  /-- Faults with messages that are the same but for the root, about the same text if about any. -/
  | fault {fault others : RegistryFault}
      (moved : MovedText root place fault.message others.message)
      (text : fault.text? = others.text?) :
    RegistryMoved root place (.error fault) (.error others)

theorem Location.Moved.unreadable (hmoved : Location.Moved root place a b) (cause : IoError) :
    RegistryMoved root place (.error (.unreadable a cause)) (.error (.unreadable b cause)) := by
  have hmessage : ∀ location : Location, (RegistryFault.unreadable location cause).message =
      "Failed to read registry: " ++ location.text ++ (": " ++ cause.message) :=
    fun location => String.append_assoc ..
  refine .fault ?_ rfl
  rw [hmessage, hmessage]
  exact hmoved.text _ _

theorem Location.Moved.malformed (hmoved : Location.Moved root place a b) (format : Format)
    (text : String) :
    RegistryMoved root place (.error (.malformed a format text))
      (.error (.malformed b format text)) := by
  have hmessage : ∀ location : Location, (RegistryFault.malformed location format text).message =
      "Failed to parse registry: " ++ location.text ++
        (": " ++ Registry.malformedMessage format) :=
    fun location => String.append_assoc ..
  refine .fault ?_ rfl
  rw [hmessage, hmessage]
  exact hmoved.text _ _

/-- Registries that are seen alike are loaded alike. -/
theorem SeenAlike.registry (hseen : SeenAlike fs other root place a b) :
    RegistryMoved root place (Registry.load fs a) (Registry.load other b) := by
  have hformat : a.extension?.bind Format.ofExtension? = b.extension?.bind Format.ofExtension? :=
    hseen.format
  unfold Registry.load
  rw [hseen.text, hformat]
  cases other.readText b.path with
  | error cause => exact hseen.moved.unreadable cause
  | ok text =>
    dsimp only
    cases Registry.parse? ((b.extension?.bind Format.ofExtension?).getD .yaml) text with
    | some registry => exact .registry registry
    | none => exact hseen.moved.malformed _ text

namespace TemplateSet

theorem loadPartial_eq_of_seenAlike (hseen : SeenAlike fs other root place a b)
    (set : TemplateSet) : set.loadPartial fs a = set.loadPartial other b := by
  unfold loadPartial
  rw [hseen.text, hseen.stem]

/-- Partials that are seen alike are loaded alike. -/
theorem seenAlike_loadPartials {locations others : List Location}
    (hseen : List.Forall₂ (SeenAlike fs other root place) locations others) (set : TemplateSet) :
    (set.loadPartials fs locations).2 = (set.loadPartials other others).2 ∧
      List.Forall₂ (EntriesAlike fs other root place (· = ·))
        (set.loadPartials fs locations).1 (set.loadPartials other others).1 := by
  induction hseen generalizing set with
  | nil => exact ⟨rfl, .nil⟩
  | cons hfirst hrest ih =>
    simp only [loadPartials]
    rw [loadPartial_eq_of_seenAlike hfirst]
    obtain ⟨hset, hentries⟩ := ih (set.loadPartial other _).2
    exact ⟨hset, .cons ⟨hfirst, rfl⟩ hentries⟩

end TemplateSet

/-- The two outcomes are the same but for the root. -/
inductive OutcomeMoved (root place : Location) :
    Except DocumentFlaw CatalogItem → Except DocumentFlaw CatalogItem → Prop where
  /-- Items that are the same but for the root. -/
  | item {added others : CatalogItem} (moved : added.Moved root place others) :
    OutcomeMoved root place (.ok added) (.ok others)
  /-- The same flaw. -/
  | flaw (flaw : DocumentFlaw) : OutcomeMoved root place (.error flaw) (.error flaw)
  /-- Duplicates of documents that are the same but for the root. -/
  | duplicate (id : String) {owner others : Location}
      (moved : Location.Moved root place owner others) :
    OutcomeMoved root place (.error (.duplicate id owner)) (.error (.duplicate id others))

/-- The two verdicts are the same but for the root. -/
structure DocumentVerdict.Moved (root place : Location) (a b : DocumentVerdict) : Prop where
  missing : a.missing = b.missing
  outcome : OutcomeMoved root place a.outcome b.outcome

/-- The two drafts are the same but for the root. -/
structure Draft.Moved (root place : Location) (a b : Draft) : Prop where
  templates : a.templates = b.templates
  items : List.Forall₂ (CatalogItem.Moved root place) a.items b.items

namespace Draft

variable {draft others : Draft} {registry : Registry}

/-- The owners of an id are the same but for the root. -/
theorem Moved.owner? (hmoved : draft.Moved root place others) (id : String) :
    draft.owner? id = none ∧ others.owner? id = none ∨
      ∃ owner again, draft.owner? id = some owner ∧ others.owner? id = some again ∧
        Location.Moved root place owner again := by
  have hitems := hmoved.items
  unfold Draft.owner?
  clear hmoved
  revert hitems
  generalize draft.items = items, others.items = again
  intro hitems
  induction hitems with
  | nil => exact .inl ⟨rfl, rfl⟩
  | @cons item again _ _ hitem _ ih =>
    have hid : again.id = item.id := by rw [CatalogItem.id, CatalogItem.id, hitem.definition]
    rw [List.find?_cons, List.find?_cons, hid]
    cases item.id == id with
    | true => exact .inr ⟨_, _, rfl, rfl, hitem.source⟩
    | false => exact ih

/-- Items that come from documents that are seen alike are added alike. -/
theorem Moved.addItem (hmoved : draft.Moved root place others)
    (hplaces : Location.Moved root place a b) (item : Item.Validated) :
    (draft.addItem registry a item).1.Moved root place (others.addItem registry b item).1 ∧
      (draft.addItem registry a item).2.Moved root place (others.addItem registry b item).2 := by
  obtain ⟨htemplates, hitems⟩ := hmoved
  unfold Draft.addItem
  rw [← htemplates]
  dsimp only
  split
  · exact ⟨⟨rfl, .flaw _⟩, ⟨htemplates, hitems⟩⟩
  · split
    · exact ⟨⟨rfl, .flaw _⟩, ⟨htemplates, hitems⟩⟩
    · refine ⟨⟨rfl, .item ⟨rfl, rfl, rfl, hplaces⟩⟩, ⟨rfl, ?_⟩⟩
      exact List.rel_append hitems (.cons ⟨rfl, rfl, rfl, hplaces⟩ .nil)

/-- Documents that are seen alike are loaded alike. -/
theorem Moved.loadDocument (hmoved : draft.Moved root place others)
    (hseen : SeenAlike fs other root place a b) :
    (draft.loadDocument fs registry a).1.Moved root place
        (others.loadDocument other registry b).1 ∧
      (draft.loadDocument fs registry a).2.Moved root place
        (others.loadDocument other registry b).2 := by
  unfold Draft.loadDocument
  rw [readItem_congr hseen.text hseen.format]
  cases readItem other b with
  | error flaw => exact ⟨⟨rfl, .flaw flaw⟩, hmoved⟩
  | ok item =>
    dsimp only
    -- The id is free in both drafts or taken in both, and then its owners correspond.
    rcases hmoved.owner? item.definition.id with ⟨hnone, hothers⟩ |
      ⟨owner, again, howner, hagain, hplaces⟩
    · rw [hnone, hothers]
      exact hmoved.addItem hseen.moved item
    · rw [howner, hagain]
      exact ⟨⟨rfl, .duplicate _ hplaces⟩, hmoved⟩

theorem moved_loadDocuments {locations places : List Location}
    (hseen : List.Forall₂ (SeenAlike fs other root place) locations places)
    (hmoved : draft.Moved root place others) :
    (draft.loadDocuments fs registry locations).2.Moved root place
        (others.loadDocuments other registry places).2 ∧
      List.Forall₂ (EntriesAlike fs other root place (DocumentVerdict.Moved root place))
        (draft.loadDocuments fs registry locations).1
        (others.loadDocuments other registry places).1 := by
  induction hseen generalizing draft others with
  | nil => exact ⟨hmoved, .nil⟩
  | cons hfirst hrest ih =>
    obtain ⟨hverdict, hafter⟩ := hmoved.loadDocument hfirst
    obtain ⟨hfinal, hentries⟩ := ih hafter
    exact ⟨hfinal, .cons ⟨hfirst, hverdict⟩ hentries⟩

end Draft

/-! ### Messages about what is seen alike -/

/-- Errors about places that are seen alike are the same but for the root. -/
theorem SeenAlike.moved_make (hseen : SeenAlike fs other root place a b) (id : Option String)
    (kind : LoadErrorKind) {message others : String}
    (hmessage : MovedText root place message others) :
    (LoadError.make a.path id kind message).Moved root place
      (LoadError.make b.path id kind others) where
  path := hseen.moved.path
  id := by rw [LoadError.make, LoadError.make, hseen.path_stem]
  kind := rfl
  message := hmessage
  text := rfl

/-- Errors that are the same but for the root stay so if they are about the same text. -/
theorem LoadError.Moved.about {error others : LoadError} (hmoved : error.Moved root place others)
    (text : String) : (error.about text).Moved root place (others.about text) :=
  { hmoved with text := rfl }

theorem SeenAlike.partialError (hseen : SeenAlike fs other root place a b)
    {verdict others : PartialVerdict} (hverdict : verdict = others) :
    Option.Rel (LoadError.Moved root place) (verdict.error? a) (others.error? b) := by
  subst hverdict
  unfold PartialVerdict.error?
  rw [hseen.stem]
  cases verdict with
  | registered | shadowed => exact .none
  | unreadable cause => exact .some (hseen.moved_make _ _ (.refl _))
  | broken fault text => exact .some ((hseen.moved_make _ _ (.refl _)).about text)

theorem SeenAlike.partialWarning (hseen : SeenAlike fs other root place a b)
    {verdict others : PartialVerdict} (hverdict : verdict = others) :
    Option.Rel (LoadWarning.Moved root place) (verdict.warning? a) (others.warning? b) := by
  subst hverdict
  unfold PartialVerdict.warning?
  rw [hseen.stem]
  cases verdict with
  | registered | unreadable | broken => exact .none
  | shadowed => exact .some ⟨hseen.moved.path, rfl, .refl _, rfl⟩

/-- The same flaw of documents that are seen alike. -/
theorem SeenAlike.flawError (hseen : SeenAlike fs other root place a b) (flaw : DocumentFlaw) :
    (flaw.error a).Moved root place (flaw.error b) := by
  unfold DocumentFlaw.error
  cases flaw with
  | malformed format text => exact (hseen.moved_make _ _ (.refl _)).about text
  | broken id fault template => exact (hseen.moved_make _ _ (.refl _)).about template
  | defective defect => cases defect <;> exact hseen.moved_make _ _ (.refl _)
  | unreadable | duplicate | unusable => exact hseen.moved_make _ _ (.refl _)

theorem DocumentVerdict.Moved.error? {verdict others : DocumentVerdict}
    (hmoved : verdict.Moved root place others) (hseen : SeenAlike fs other root place a b) :
    Option.Rel (LoadError.Moved root place) (verdict.error? a) (others.error? b) := by
  obtain ⟨missing, outcome⟩ := verdict
  obtain ⟨again, outcomeAgain⟩ := others
  obtain ⟨-, houtcome⟩ := hmoved
  unfold DocumentVerdict.error?
  dsimp only at houtcome ⊢
  cases houtcome with
  | item => exact .none
  | flaw flaw => exact .some (hseen.flawError flaw)
  | duplicate id howner =>
    -- This message names the owner of the id.
    refine .some (hseen.moved_make _ _ ?_)
    have hmessage := howner.text ("id '" ++ id ++ "' is already defined by ") ""
    rwa [String.append_empty, String.append_empty] at hmessage

theorem DocumentVerdict.Moved.warnings {verdict others : DocumentVerdict}
    (hmoved : verdict.Moved root place others) (hseen : SeenAlike fs other root place a b) :
    List.Forall₂ (LoadWarning.Moved root place) (verdict.warnings a) (others.warnings b) := by
  unfold DocumentVerdict.warnings
  rw [hmoved.missing, List.forall₂_map_left_iff, List.forall₂_map_right_iff, List.forall₂_same]
  exact fun _ _ => ⟨hseen.moved.path, rfl, .refl _, rfl⟩

end TemplateCatalog
