import TemplateCatalog.Catalog.Build
import TemplateCatalog.Proofs.Catalog.Walk

/-!
# Drafts and the ids in them

What loading documents does to one id. As long as the id is free, a document that defines an item
with the id gets it if the item compiles and leaves it free if it does not; once the id is owned,
it stays with its owner, and the documents that define another item with it are duplicates. The
items of a draft and the names of its templates stay in step: an id is owned if and only if there
is a template under its name, and this is the template of the owner.

The module introduces:

* `Item.Validated.compiled?`: the template of an item that compiles;
* `Defines`: a document defines an item with an id;
* `CatalogItem.MadeFrom`: an item is what a document makes of itself;
* `Draft.Free`, `Draft.Owned`: what a draft holds for an id;
* `Draft.missingFor`: the partials that an item needs and that are not there;
* `Build.initialDraft`, `Build.registryOf`: what the documents of a build are loaded with.

Main statements:

* `Draft.loadDocument_cases`: all that a document can come to.
* `Draft.Free.loadDocuments`: documents whose items do not compile leave an id free.
* `Draft.Owned.loadDocuments`: an id that is owned stays with its owner.
* `Draft.Free.owned_of_compiled`: the first item that compiles owns its id.
* `Draft.items_loadDocuments`, `Draft.madeFrom_of_mem_loadDocuments`: the items of a draft are those
  that the verdicts name, each made from its own document.
* `Draft.nodup_ids_loadDocuments`: no two items of a draft have one id.
* `Build.items_generation`: a generation has all items of its draft.
-/

namespace TemplateCatalog

/-- The template of an item that compiles: the declarations of its arguments make a schema, and its
template can be read. -/
def Item.Validated.compiled? (item : Item.Validated) : Option Template.Compiled :=
  match item.definition.arguments.check with
  | .error _ => none
  | .ok () => (Template.Compiled.read item.definition.template).toOption

/-- The document at a location defines an item with the id. -/
def Defines (fs : FileSystem) (id : String) (location : Location) (item : Item.Validated) : Prop :=
  readItem fs location = .ok item ∧ item.definition.id = id

/-- The item is what the document at a location makes of itself: its own definition, and its own
judgement with the registry's entry for its id applied. -/
def CatalogItem.MadeFrom (fs : FileSystem) (registry : Registry) (location : Location)
    (added : CatalogItem) : Prop :=
  ∃ item, readItem fs location = .ok item ∧ added =
    { definition := item.definition
      profile := item.judgement.profile.override (registry.find? item.definition.id)
      source := location }

/-- The error is about an item that does not compile. -/
def LoadError.IsCompileError (error : LoadError) : Prop :=
  error.kind = .schema ∨ error.kind = .template

theorem itemTemplateName_inj {a b : String} (hsame : itemTemplateName a = itemTemplateName b) :
    a = b :=
  String.append_right_inj "items/" |>.mp hsame

namespace Draft

/-- The items with an id. -/
def itemsOf (id : String) (draft : Draft) : List CatalogItem :=
  draft.items.filter fun item => item.id = id

/-- The template that items with an id are rendered from. -/
def template? (id : String) (draft : Draft) : Option Template.Compiled :=
  draft.templates.library.find? (itemTemplateName id)

/-- Nobody owns the id. -/
structure Free (id : String) (draft : Draft) : Prop where
  no_item : draft.itemsOf id = []
  no_template : draft.template? id = none

/-- The item at the given place owns the id, alone and with its own template. -/
structure Owned (id : String) (definition : Item.Definition) (source : Location)
    (template : Template.Compiled) (draft : Draft) : Prop where
  one_item : ∃ owner, draft.itemsOf id = [owner] ∧ owner.definition = definition ∧
    owner.source = source
  own_template : draft.template? id = some template

variable {fs : FileSystem} {registry : Registry} {id : String} {location : Location}
  {item : Item.Validated} {draft : Draft} {definition : Item.Definition} {source : Location}
  {template : Template.Compiled}

/-- The first item with an id tells who owns the id. -/
theorem owner?_eq (id : String) (draft : Draft) :
    draft.owner? id = (draft.itemsOf id).head?.map CatalogItem.source := by
  rw [owner?, itemsOf, List.head?_filter]
  congr 2

theorem Free.owner? (hfree : draft.Free id) : draft.owner? id = none := by
  rw [owner?_eq, hfree.no_item]
  rfl

theorem Owned.owner? (howned : draft.Owned id definition source template) :
    draft.owner? id = some source := by
  obtain ⟨owner, hitems, -, rfl⟩ := howned.one_item
  rw [owner?_eq, hitems]
  rfl

/-! ### Single documents -/

/-- An item that compiles is added with its own template. -/
theorem addItem_of_compiled (hcompiled : item.compiled? = some template) :
    ∃ missing added, draft.addItem registry location item =
        (⟨missing, .ok added⟩,
          ⟨{ draft.templates with
              library := Fields.insert (itemTemplateName item.definition.id) template
                draft.templates.library },
            draft.items ++ [added]⟩) ∧
      added.definition = item.definition ∧ added.source = location := by
  unfold Item.Validated.compiled? at hcompiled
  cases hcheck : item.definition.arguments.check with
  | error fault => simp [hcheck] at hcompiled
  | ok _ =>
    simp only [hcheck] at hcompiled
    cases hread : Template.Compiled.read item.definition.template with
    | error fault => simp [hread, Except.toOption] at hcompiled
    | ok compiled =>
      -- Template and item are added in one go: the names of the templates keep up with the ids.
      rw [hread, Except.toOption, Option.some.injEq] at hcompiled
      subst hcompiled
      simp only [addItem, hcheck, TemplateSet.addItem, hread, bind, Except.bind, pure, Except.pure]
      exact ⟨_, _, rfl, rfl, rfl⟩

/-- An item that does not compile is not added, and the error says why. -/
theorem addItem_of_not_compiled (hcompiled : item.compiled? = none) :
    ∃ missing flaw, draft.addItem registry location item = (⟨missing, .error flaw⟩, draft) ∧
      (flaw.error location).IsCompileError := by
  unfold Item.Validated.compiled? at hcompiled
  cases hcheck : item.definition.arguments.check with
  | error fault =>
    -- The declarations of the arguments make no schema.
    simp only [addItem, hcheck]
    exact ⟨_, _, rfl, .inl rfl⟩
  | ok _ =>
    simp only [hcheck] at hcompiled
    cases hread : Template.Compiled.read item.definition.template with
    | error fault =>
      -- The template cannot be read.
      simp only [addItem, hcheck, TemplateSet.addItem, hread, bind, Except.bind]
      exact ⟨_, _, rfl, .inr rfl⟩
    | ok compiled => simp [hread, Except.toOption] at hcompiled

/-- An item with another id leaves what a draft holds for an id as it is. -/
theorem addItem_of_ne (hother : item.definition.id ≠ id) :
    (draft.addItem registry location item).2.itemsOf id = draft.itemsOf id ∧
      (draft.addItem registry location item).2.template? id = draft.template? id := by
  cases hcompiled : item.compiled? with
  | none =>
    obtain ⟨missing, flaw, hadd, -⟩ :=
      @addItem_of_not_compiled registry location item draft hcompiled
    rw [hadd]
    exact ⟨rfl, rfl⟩
  | some template =>
    obtain ⟨missing, added, hadd, hdefinition, -⟩ :=
      @addItem_of_compiled registry location item draft template hcompiled
    rw [hadd]
    constructor
    · have hid : added.id ≠ id := by rwa [CatalogItem.id, hdefinition]
      simp [itemsOf, List.filter_append, hid]
    · have hname : itemTemplateName id ≠ itemTemplateName item.definition.id :=
        fun hsame => hother (itemTemplateName_inj hsame).symm
      exact (Fields.find?_insert _ _ _ _).trans (if_neg hname)

/-- The partials that an item says it needs and that are not there, each with the id of the item. -/
def missingFor (item : Item.Validated) (draft : Draft) : List (String × String) :=
  (item.judgement.partials.filter fun name => !draft.templates.hasPartial name).map
    fun name => (item.definition.id, name)

theorem missing_addItem (registry : Registry) (location : Location) (item : Item.Validated)
    (draft : Draft) :
    (draft.addItem registry location item).1.missing = draft.missingFor item := by
  unfold addItem
  dsimp only
  split
  · rfl
  · split <;> rfl

/-- All that a document can come to: it defines no item, or an item whose id is owned, or one that
does not compile, or one that is added with its own template. -/
theorem loadDocument_cases (fs : FileSystem) (registry : Registry) (location : Location)
    (draft : Draft) :
    (∃ flaw, readItem fs location = .error flaw ∧
      draft.loadDocument fs registry location = (.flawed flaw, draft)) ∨
    (∃ item owner, readItem fs location = .ok item ∧
      draft.owner? item.definition.id = some owner ∧
      draft.loadDocument fs registry location =
        (.flawed (.duplicate item.definition.id owner), draft)) ∨
    (∃ item flaw, readItem fs location = .ok item ∧ draft.owner? item.definition.id = none ∧
      item.compiled? = none ∧ (flaw.error location).IsCompileError ∧
      draft.loadDocument fs registry location = (⟨draft.missingFor item, .error flaw⟩, draft)) ∨
    ∃ item template added, readItem fs location = .ok item ∧
      draft.owner? item.definition.id = none ∧ item.compiled? = some template ∧
      added.definition = item.definition ∧ added.source = location ∧
      draft.loadDocument fs registry location =
        (⟨draft.missingFor item, .ok added⟩,
          ⟨{ draft.templates with
              library := Fields.insert (itemTemplateName item.definition.id) template
                draft.templates.library },
            draft.items ++ [added]⟩) := by
  -- The questions are those of the definition, in its order: is it an item, is its id free, and does
  -- it compile?
  cases hread : readItem fs location with
  | error flaw => exact .inl ⟨flaw, rfl, by simp only [loadDocument, hread]⟩
  | ok item =>
    refine .inr ?_
    cases howner : draft.owner? item.definition.id with
    | some owner =>
      exact .inl ⟨item, owner, rfl, howner, by simp only [loadDocument, hread, howner]⟩
    | none =>
      refine .inr ?_
      have hload : draft.loadDocument fs registry location =
          draft.addItem registry location item := by simp only [loadDocument, hread, howner]
      have hmissing := missing_addItem registry location item draft
      cases hcompiled : item.compiled? with
      | none =>
        obtain ⟨missing, flaw, hadd, herror⟩ :=
          @addItem_of_not_compiled registry location item draft hcompiled
        rw [hadd] at hload hmissing
        exact .inl ⟨item, flaw, rfl, howner, hcompiled, herror, hload.trans (hmissing ▸ rfl)⟩
      | some template =>
        obtain ⟨missing, added, hadd, hdefinition, hsource⟩ :=
          @addItem_of_compiled registry location item draft template hcompiled
        rw [hadd] at hload hmissing
        exact .inr ⟨item, template, added, rfl, howner, hcompiled, hdefinition, hsource,
          hload.trans (hmissing ▸ rfl)⟩

/-- A document that defines no item with an id leaves what a draft holds for the id as it is. -/
theorem loadDocument_of_not_defines (hnone : ∀ item, ¬Defines fs id location item) :
    (draft.loadDocument fs registry location).2.itemsOf id = draft.itemsOf id ∧
      (draft.loadDocument fs registry location).2.template? id = draft.template? id := by
  unfold loadDocument
  cases hread : readItem fs location with
  | error flaw => exact ⟨rfl, rfl⟩
  | ok item =>
    simp only
    cases draft.owner? item.definition.id with
    | some owner => exact ⟨rfl, rfl⟩
    | none => exact addItem_of_ne fun hid => hnone item ⟨hread, hid⟩

/-- A document that defines an item with a free id is loaded as this item. -/
theorem Free.loadDocument_eq (hfree : draft.Free id) (hdefines : Defines fs id location item) :
    draft.loadDocument fs registry location = draft.addItem registry location item := by
  obtain ⟨hread, rfl⟩ := hdefines
  simp only [loadDocument, hread, hfree.owner?]

/-- The first item that compiles owns its id. -/
theorem Free.owned_of_compiled (hfree : draft.Free id) (registry : Registry)
    (hdefines : Defines fs id location item) (hcompiled : item.compiled? = some template) :
    (draft.loadDocument fs registry location).2.Owned id item.definition location template := by
  obtain ⟨missing, added, hadd, hdefinition, hsource⟩ :=
    @addItem_of_compiled registry location item draft template hcompiled
  rw [hfree.loadDocument_eq hdefines, hadd]
  obtain ⟨-, rfl⟩ := hdefines
  refine ⟨⟨added, ?_, hdefinition, hsource⟩, ?_⟩
  · have hid : added.id = item.definition.id := by rw [CatalogItem.id, hdefinition]
    have hitems := hfree.no_item
    rw [itemsOf] at hitems ⊢
    simp [List.filter_append, hitems, hid]
  · exact (Fields.find?_insert _ _ _ _).trans (if_pos rfl)

/-- A document that defines another item with an id that is owned is a duplicate. -/
theorem Owned.loadDocument_eq (howned : draft.Owned id definition source template)
    (hdefines : Defines fs id location item) :
    draft.loadDocument fs registry location = (.flawed (.duplicate id source), draft) := by
  obtain ⟨hread, rfl⟩ := hdefines
  simp only [loadDocument, hread, howned.owner?]

/-! ### Several documents -/

theorem loadDocuments_append_fst (before after : List Location) (draft : Draft) :
    (draft.loadDocuments fs registry (before ++ after)).1 =
      (draft.loadDocuments fs registry before).1 ++
        ((draft.loadDocuments fs registry before).2.loadDocuments fs registry after).1 := by
  induction before generalizing draft with
  | nil => rfl
  | cons location before ih => simp [loadDocuments, ih]

theorem loadDocuments_append_snd (before after : List Location) (draft : Draft) :
    (draft.loadDocuments fs registry (before ++ after)).2 =
      ((draft.loadDocuments fs registry before).2.loadDocuments fs registry after).2 := by
  induction before generalizing draft with
  | nil => rfl
  | cons location before ih => simp [loadDocuments, ih]

/-- Documents whose items do not compile leave an id free, and each of them has an error that says
why. -/
theorem Free.loadDocuments {locations : List Location} (hfree : draft.Free id)
    (registry : Registry)
    (hnone : ∀ location ∈ locations, ∀ item, Defines fs id location item → item.compiled? = none) :
    (draft.loadDocuments fs registry locations).2.Free id ∧
      ∀ entry ∈ (draft.loadDocuments fs registry locations).1, ∀ item,
        Defines fs id entry.1 item →
          ∃ error, entry.2.error? entry.1 = some error ∧ error.IsCompileError := by
  induction locations generalizing draft with
  | nil => exact ⟨hfree, by simp [Draft.loadDocuments]⟩
  | cons location locations ih =>
    have hrest : ∀ other ∈ locations, ∀ item, Defines fs id other item → item.compiled? = none :=
      fun other hother => hnone other (List.mem_cons_of_mem _ hother)
    simp only [Draft.loadDocuments]
    by_cases hdefines : ∃ item, Defines fs id location item
    · -- A document that is about the id fails to compile, so the draft stays the same.
      obtain ⟨item, hdefines⟩ := hdefines
      obtain ⟨missing, flaw, hadd, herror⟩ := @addItem_of_not_compiled registry location item draft
        (hnone location List.mem_cons_self item hdefines)
      rw [hfree.loadDocument_eq hdefines, hadd]
      obtain ⟨hfinal, hentries⟩ := ih hfree hrest
      refine ⟨hfinal, fun entry hentry => ?_⟩
      rcases List.mem_cons.mp hentry with rfl | hentry
      · exact fun _ _ => ⟨_, rfl, herror⟩
      · exact hentries entry hentry
    · -- A document that is not about the id changes nothing for it.
      rw [not_exists] at hdefines
      obtain ⟨hitems, htemplate⟩ :=
        @loadDocument_of_not_defines fs registry id location draft hdefines
      obtain ⟨hfinal, hentries⟩ :=
        ih ⟨hitems.trans hfree.no_item, htemplate.trans hfree.no_template⟩ hrest
      refine ⟨hfinal, fun entry hentry => ?_⟩
      rcases List.mem_cons.mp hentry with rfl | hentry
      · exact fun item hitem => absurd hitem (hdefines item)
      · exact hentries entry hentry

/-- An id that is owned stays with its owner, and every other document that defines an item with it
is a duplicate. -/
theorem Owned.loadDocuments (howned : draft.Owned id definition source template)
    (fs : FileSystem) (registry : Registry) (locations : List Location) :
    (draft.loadDocuments fs registry locations).2.Owned id definition source template ∧
      ∀ entry ∈ (draft.loadDocuments fs registry locations).1, ∀ item,
        Defines fs id entry.1 item →
          entry.2.error? entry.1 = some ((DocumentFlaw.duplicate id source).error entry.1) := by
  induction locations generalizing draft with
  | nil => exact ⟨howned, by simp [Draft.loadDocuments]⟩
  | cons location locations ih =>
    simp only [Draft.loadDocuments]
    by_cases hdefines : ∃ item, Defines fs id location item
    · -- A document that is about the id is a duplicate, so the draft stays the same.
      obtain ⟨item, hdefines⟩ := hdefines
      rw [howned.loadDocument_eq hdefines]
      obtain ⟨hfinal, hentries⟩ := ih howned
      refine ⟨hfinal, fun entry hentry => ?_⟩
      rcases List.mem_cons.mp hentry with rfl | hentry
      · exact fun _ _ => rfl
      · exact hentries entry hentry
    · rw [not_exists] at hdefines
      obtain ⟨hitems, htemplate⟩ :=
        @loadDocument_of_not_defines fs registry id location draft hdefines
      obtain ⟨owner, howner⟩ := howned.one_item
      obtain ⟨hfinal, hentries⟩ := ih
        ⟨⟨owner, hitems.trans howner.1, howner.2⟩, htemplate.trans howned.own_template⟩
      refine ⟨hfinal, fun entry hentry => ?_⟩
      rcases List.mem_cons.mp hentry with rfl | hentry
      · exact fun item hitem => absurd hitem (hdefines item)
      · exact hentries entry hentry

/-- An item has the definition that its document makes, and the profile that its document makes
with the entry of its id applied. -/
theorem madeFrom_of_item? {added : CatalogItem}
    (hadded : (draft.loadDocument fs registry location).1.item? = some added) :
    added.MadeFrom fs registry location := by
  unfold loadDocument at hadded
  cases hread : readItem fs location with
  | error flaw =>
    simp [hread, DocumentVerdict.flawed, DocumentVerdict.item?, Except.toOption] at hadded
  | ok item =>
    simp only [hread] at hadded
    cases howner : draft.owner? item.definition.id with
    | some owner =>
      simp [howner, DocumentVerdict.flawed, DocumentVerdict.item?, Except.toOption] at hadded
    | none =>
      simp only [howner, addItem] at hadded
      cases hcheck : item.definition.arguments.check with
      | error fault => simp [hcheck, DocumentVerdict.item?, Except.toOption] at hadded
      | ok _ =>
        simp only [hcheck] at hadded
        -- Only here, with a template that can be read, is an item added.
        cases htemplates : draft.templates.addItem item.definition.id item.definition.template with
        | error fault => simp [htemplates, DocumentVerdict.item?, Except.toOption] at hadded
        | ok templates =>
          simp only [htemplates, DocumentVerdict.item?, Except.toOption, Option.some.injEq]
            at hadded
          exact ⟨item, hread, hadded.symm⟩

/-- The items of a draft are those that the verdicts name. -/
theorem items_loadDocuments (locations : List Location) (draft : Draft) :
    (draft.loadDocuments fs registry locations).2.items =
      draft.items ++
        (draft.loadDocuments fs registry locations).1.filterMap fun entry => entry.2.item? := by
  induction locations generalizing draft with
  | nil => simp [loadDocuments]
  | cons location locations ih =>
    simp only [loadDocuments, ih, items_loadDocument, List.filterMap_cons, List.append_assoc]
    cases (draft.loadDocument fs registry location).1.item? <;> rfl

theorem madeFrom_of_mem_loadDocuments {locations : List Location}
    {entry : Location × DocumentVerdict}
    (hentry : entry ∈ (draft.loadDocuments fs registry locations).1) {added : CatalogItem}
    (hadded : entry.2.item? = some added) : added.MadeFrom fs registry entry.1 := by
  induction locations generalizing draft with
  | nil => cases hentry
  | cons location locations ih =>
    rcases List.mem_cons.mp hentry with rfl | hentry
    · exact madeFrom_of_item? hadded
    · exact ih hentry

/-- A document adds no item whose id another item has. -/
theorem nodup_ids_loadDocument (hnodup : (draft.items.map CatalogItem.id).Nodup)
    (location : Location) :
    ((draft.loadDocument fs registry location).2.items.map CatalogItem.id).Nodup := by
  unfold loadDocument
  cases hread : readItem fs location with
  | error flaw => exact hnodup
  | ok item =>
    simp only
    cases howner : draft.owner? item.definition.id with
    | some owner => exact hnodup -- A duplicate is not added.
    | none =>
      cases hcompiled : item.compiled? with
      | none =>
        obtain ⟨missing, flaw, hadd, -⟩ :=
          @addItem_of_not_compiled registry location item draft hcompiled
        simp only [hadd]
        exact hnodup
      | some template =>
        obtain ⟨missing, added, hadd, hdefinition, -⟩ :=
          @addItem_of_compiled registry location item draft template hcompiled
        -- An item is added only if no item with its id was found.
        have hnew : added.id ∉ draft.items.map CatalogItem.id := by
          intro hmem
          obtain ⟨other, hother, hsame⟩ := List.mem_map.mp hmem
          rw [owner?, Option.map_eq_none_iff, List.find?_eq_none] at howner
          refine howner other hother ?_
          rw [hsame, CatalogItem.id, hdefinition]
          exact beq_self_eq_true _
        simp only [hadd, List.map_append, List.map_cons, List.map_nil]
        rw [List.nodup_append]
        refine ⟨hnodup, by simp, fun a ha b hb hab => hnew ?_⟩
        rw [List.mem_singleton] at hb
        exact hb ▸ hab ▸ ha

/-- No two items of a draft have one id. -/
theorem nodup_ids_loadDocuments (hnodup : (draft.items.map CatalogItem.id).Nodup)
    (locations : List Location) :
    ((draft.loadDocuments fs registry locations).2.items.map CatalogItem.id).Nodup := by
  induction locations generalizing draft with
  | nil => exact hnodup
  | cons location locations ih => exact ih (nodup_ids_loadDocument hnodup location)

end Draft

/-! ### Drafts of builds -/

namespace Build

variable {fs : FileSystem} {findings : Findings}

/-- The draft before any document is loaded: the partials, and no items. -/
def initialDraft (fs : FileSystem) (findings : Findings) : Draft :=
  ⟨(TemplateSet.empty.loadPartials fs findings.partials).2, []⟩

/-- The registry that a build goes by. -/
def registryOf (fs : FileSystem) (findings : Findings) : Registry :=
  registryOr (findings.registry.map (Registry.load fs))

theorem documents_ofFindings :
    (ofFindings fs findings).documents = ((initialDraft fs findings).loadDocuments fs
      (registryOf fs findings) findings.documents).1 :=
  rfl

theorem draft_ofFindings :
    (ofFindings fs findings).draft = ((initialDraft fs findings).loadDocuments fs
      (registryOf fs findings) findings.documents).2 :=
  rfl

/-- A generation has all items of its draft. -/
theorem items_generation (number : Nat) :
    ((ofFindings fs findings).generation number).items = (ofFindings fs findings).draft.items := by
  have hnone : ((initialDraft fs findings).items.map CatalogItem.id).Nodup := .nil
  exact Generation.items_ofItems _ _ (Draft.nodup_ids_loadDocuments hnone _)

theorem library_generation (number : Nat) :
    ((ofFindings fs findings).generation number).library =
      (ofFindings fs findings).draft.templates.library :=
  Generation.library_ofItems _ _ _

end Build

end TemplateCatalog
