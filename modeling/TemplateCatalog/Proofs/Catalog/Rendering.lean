import TemplateCatalog.Proofs.Catalog.Profiles
import TemplateCatalog.Proofs.Item.Acceptance
import TemplateCatalog.Proofs.Source.Decoded

/-!
# Rendering the items of a generation

An item is rendered from its own template, whatever other templates there are in its generation, and
whether a call of it is accepted is up to its declarations alone. Both go back to its document: the
declarations were read from it, so there is one for each argument, and the template was compiled
from it, under a name that no other item and no partial has.

The module introduces:

* `Draft.HasTemplates`: the items of a draft have their own templates in its library;
* `CatalogItem.RendersAsDeclared`: calls of an item are accepted as its declarations say, and
  accepted calls are rendered from its template.

Main statements:

* `Draft.HasTemplates.loadDocuments`: loading documents gives every item its own template.
* `CatalogItem.rendersAsDeclared`: what is needed for an item to be rendered as it declares.
* `Run.renders_as_declared`: the items of all generations that a service publishes are.
-/

namespace TemplateCatalog

/-! ### Templates of items -/

namespace Draft

variable {fs : FileSystem} {registry : Registry} {draft : Draft}

/-- The template that an item is rendered from is the one that its definition holds. -/
def HasTemplates (draft : Draft) : Prop :=
  ∀ item ∈ draft.items, ∃ template,
    Template.Compiled.read item.definition.template = .ok template ∧
      draft.template? item.id = some template

theorem read_of_compiled? {item : Item.Validated} {template : Template.Compiled}
    (hcompiled : item.compiled? = some template) :
    Template.Compiled.read item.definition.template = .ok template := by
  unfold Item.Validated.compiled? at hcompiled
  split at hcompiled
  · cases hcompiled
  · cases hread : Template.Compiled.read item.definition.template with
    | error fault => simp [hread, Except.toOption] at hcompiled
    | ok compiled =>
      rw [hread, Except.toOption, Option.some.injEq] at hcompiled
      rw [hcompiled]

/-- A document adds its template with its item, and leaves the other templates alone. -/
theorem HasTemplates.loadDocument (htemplates : draft.HasTemplates) (location : Location) :
    (draft.loadDocument fs registry location).2.HasTemplates := by
  rcases draft.loadDocument_cases fs registry location with ⟨flaw, -, hload⟩ |
    ⟨item, owner, -, -, hload⟩ | ⟨item, flaw, -, -, -, -, hload⟩ |
    ⟨item, template, added, -, howner, hcompiled, hdefinition, -, hload⟩
  · exact hload ▸ htemplates
  · exact hload ▸ htemplates
  · exact hload ▸ htemplates
  · rw [hload]
    have hid : added.id = item.definition.id := by rw [CatalogItem.id, hdefinition]
    intro other hother
    rcases List.mem_append.mp hother with hother | hother
    · -- The id of an item that was there before is not the new one.
      have hne : other.id ≠ item.definition.id := by
        rw [owner?, Option.map_eq_none_iff, List.find?_eq_none] at howner
        simpa using howner other hother
      obtain ⟨own, hown, hfound⟩ := htemplates other hother
      refine ⟨own, hown, (Fields.find?_insert _ _ _ _).trans ?_⟩
      rw [if_neg fun hsame => hne (itemTemplateName_inj hsame)]
      exact hfound
    · rw [List.mem_singleton.mp hother, hid, hdefinition]
      exact ⟨template, read_of_compiled? hcompiled,
        (Fields.find?_insert _ _ _ _).trans (if_pos rfl)⟩

/-- Loading documents gives every item its own template. -/
theorem HasTemplates.loadDocuments (htemplates : draft.HasTemplates) (locations : List Location) :
    (draft.loadDocuments fs registry locations).2.HasTemplates := by
  induction locations generalizing draft with
  | nil => exact htemplates
  | cons location locations ih => exact ih (htemplates.loadDocument location)

end Draft

/-! ### Calls of items -/

namespace CatalogItem

open Item.Arguments

/-- Calls of the item are accepted exactly as its declarations say, and a call that is accepted is
rendered from the template of the item. -/
structure RendersAsDeclared (library : Template.Library) (item : CatalogItem) : Prop where
  /-- A call is rejected for its arguments if and only if it goes against a declaration. -/
  rejected_iff : ∀ supplied,
    (∃ id faults, item.render library supplied = .error (.invalidArguments id faults)) ↔
      ∃ name fault, item.definition.arguments.Violates supplied name fault
  /-- The details are one for each argument whose declaration the call goes against. -/
  details : ∀ supplied id faults,
    item.render library supplied = .error (.invalidArguments id faults) →
      id = item.id ∧ item.definition.arguments.Details supplied faults
  /-- There is one way to go against a declaration. -/
  unique : ∀ supplied name fault other,
    item.definition.arguments.Violates supplied name fault →
      item.definition.arguments.Violates supplied name other → fault = other
  /-- Arguments that are not declared do not matter: calls that have the same under all declared
  names are rejected alike. -/
  undeclared : ∀ supplied other,
    (∀ name ∈ item.definition.arguments.names, supplied.find? name = other.find? name) →
      ∀ id faults, item.render library supplied = .error (.invalidArguments id faults) ↔
        item.render library other = .error (.invalidArguments id faults)
  /-- Any other call is rendered from the template that the definition holds. The context is what
  the call supplies, and the default of each argument that it leaves out. -/
  rendered : ∃ template, Template.Compiled.read item.definition.template = .ok template ∧
    library.find? (itemTemplateName item.id) = some template ∧
    ∀ supplied, (∀ name fault, ¬item.definition.arguments.Violates supplied name fault) →
      ∃ context : Fields Json.Value,
        (∀ name, context.find? name = match supplied.find? name with
          | some value => some value
          | none => (item.definition.arguments.find? name).bind (·.default)) ∧
        (supplied.Sorted → context.Sorted) ∧
        item.render library supplied =
          match library.render (itemTemplateName item.id) context with
          | .ok text => .ok text
          | .error fault => .error (.template item.id fault)

/-- The faults of a call. -/
def faultsOf (item : CatalogItem) (supplied : Fields Json.Value) : List Item.Arguments.Fault :=
  Json.Schema.violations item.schema (.object (item.definition.arguments.withDefaults supplied))

/-- A call without faults is rendered. -/
theorem render_of_faultsOf_eq_nil {item : CatalogItem} {supplied : Fields Json.Value}
    (hfaults : item.faultsOf supplied = []) (library : Template.Library) :
    item.render library supplied =
      match library.render (itemTemplateName item.id)
        (item.definition.arguments.withDefaults supplied) with
      | .ok text => .ok text
      | .error fault => .error (.template item.id fault) := by
  unfold faultsOf at hfaults
  cases hrendered : library.render (itemTemplateName item.id)
      (item.definition.arguments.withDefaults supplied) with
  | ok text => simp only [render, hfaults, hrendered]
  | error fault => simp only [render, hfaults, hrendered]

/-- A call is rejected for its arguments if it has faults, with these faults. -/
theorem render_eq_invalidArguments_iff {library : Template.Library} {item : CatalogItem}
    {supplied : Fields Json.Value} {id : String} {faults : List Item.Arguments.Fault} :
    item.render library supplied = .error (.invalidArguments id faults) ↔
      id = item.id ∧ faults = item.faultsOf supplied ∧ faults ≠ [] := by
  cases hfaults : item.faultsOf supplied with
  | nil =>
    rw [render_of_faultsOf_eq_nil hfaults]
    cases library.render (itemTemplateName item.id)
      (item.definition.arguments.withDefaults supplied) <;> simp +contextual
  | cons fault rest =>
    unfold faultsOf at hfaults
    simp only [render, hfaults, Except.error.injEq, RenderFault.invalidArguments.injEq]
    constructor
    · rintro ⟨rfl, rfl⟩
      exact ⟨rfl, rfl, List.cons_ne_nil _ _⟩
    · rintro ⟨rfl, rfl, -⟩
      exact ⟨rfl, rfl⟩

/-- An item with one declaration for each argument and with its own template in the library is
rendered as it declares. -/
theorem rendersAsDeclared {library : Template.Library} {item : CatalogItem}
    {template : Template.Compiled} (hsorted : item.definition.arguments.Sorted)
    (hread : Template.Compiled.read item.definition.template = .ok template)
    (htemplate : library.find? (itemTemplateName item.id) = some template) :
    item.RendersAsDeclared library := by
  -- There are as many faults as arguments whose declarations a call goes against.
  have hdetails := Item.Arguments.details_violations hsorted
  have hnone : ∀ supplied, item.faultsOf supplied = [] ↔
      ∀ name fault, ¬item.definition.arguments.Violates supplied name fault := by
    intro supplied
    obtain ⟨names, -, hnames, hfaults⟩ := hdetails supplied
    have hlength : names.length = (item.faultsOf supplied).length := hfaults.length_eq
    rw [← List.length_eq_zero_iff, ← hlength, List.length_eq_zero_iff,
      List.eq_nil_iff_forall_not_mem]
    simp [hnames]
  exact {
    rejected_iff := by
      intro supplied
      simp only [render_eq_invalidArguments_iff]
      constructor
      · rintro ⟨id, faults, -, rfl, hfaults⟩
        simpa using mt (hnone supplied).mpr hfaults
      · rintro ⟨name, fault, hviolates⟩
        exact ⟨_, _, rfl, rfl, fun hfaults => (hnone supplied).mp hfaults name fault hviolates⟩
    details := by
      intro supplied id faults hrejected
      obtain ⟨rfl, rfl, -⟩ := render_eq_invalidArguments_iff.mp hrejected
      exact ⟨rfl, hdetails supplied⟩
    unique := fun supplied name fault other hfault hother => hfault.unique hsorted hother
    undeclared := by
      intro supplied other hsame id faults
      have hfaults : item.faultsOf supplied = item.faultsOf other :=
        Item.Arguments.violations_congr hsorted hsame
      rw [render_eq_invalidArguments_iff, render_eq_invalidArguments_iff, hfaults]
    rendered := by
      refine ⟨template, hread, htemplate, fun supplied hviolates =>
        ⟨_, fun name => ?_, fun hsupplied => sorted_withDefaults _ hsupplied,
          render_of_faultsOf_eq_nil ((hnone supplied).mpr hviolates) library⟩⟩
      rw [find?_withDefaults hsorted, effective?]
      cases supplied.find? name <;> rfl }

end CatalogItem

/-! ### Calls of published items -/

namespace Build

variable {fs : FileSystem} {findings : Findings}

/-- The items of every build have one declaration for each argument. -/
theorem sorted_arguments {number : Nat} {item : CatalogItem}
    (hitem : item ∈ ((ofFindings fs findings).generation number).items) :
    item.definition.arguments.Sorted := by
  obtain ⟨-, validated, hread, hmade⟩ := madeFrom_of_mem hitem
  obtain ⟨text, document, -, hparse, hvalidate⟩ := exists_document_of_readItem hread
  rw [hmade, Item.Document.arguments_of_validate hvalidate]
  exact Item.Document.sorted_arguments_of_parse? hparse

/-- The items of every build are rendered as they declare. -/
theorem rendersAsDeclared {number : Nat} {item : CatalogItem}
    (hitem : item ∈ ((ofFindings fs findings).generation number).items) :
    item.RendersAsDeclared ((ofFindings fs findings).generation number).library := by
  have htemplates : (ofFindings fs findings).draft.HasTemplates := by
    rw [draft_ofFindings]
    exact Draft.HasTemplates.loadDocuments (fun _ hnone => absurd hnone List.not_mem_nil) _
  obtain ⟨template, hcompiled, hfound⟩ := htemplates item (items_generation number ▸ hitem)
  rw [library_generation]
  exact CatalogItem.rendersAsDeclared (sorted_arguments hitem) hcompiled hfound

end Build

/-- There is a run in which a new service publishes the item that the document defines, and nothing
else, and in which the files stay as they are. -/
theorem Run.exists_singleDocument (text : String) (defines : Item.Definition → Bool)
    (hdefines : ((readItem (singleDocument text) ⟨["a.yaml"]⟩).toOption.any fun item =>
      item.compiled?.isSome && defines item.definition) = true) :
    ∃ log system, Run (.start (singleDocument text) 1000 ⟨4, none, none⟩ false) log system ∧
      (∀ changed, .changed changed ∉ log) ∧ ∃ cycle ∈ cycles log, ∃ item,
        cycle.generation.items = [item] ∧ defines item.definition = true ∧
          item.RendersAsDeclared cycle.generation.library := by
  have hscan := Scan.run_scan_of_document (listing_singleDocument text)
  obtain ⟨log, system, hrun, hcycle, hkept⟩ :=
    Run.exists_load (plainBuild_path_top (top_singleDocument text) hscan) 1000 ⟨4, none, none⟩ false
  obtain ⟨added, hitems, hdefined⟩ := @Build.exists_item_of_single (singleDocument text)
    (.ofDocument .top) _ rfl defines hdefines 1
  exact ⟨log, system, hrun, hkept, _, hcycle, added, hitems, hdefined,
    Build.rendersAsDeclared (hitems ▸ List.mem_singleton_self added)⟩

/-- The items of every generation that is published in the course of a run are rendered as they
declare. -/
theorem Run.renders_as_declared {files : FileSystem} {ttl : Nat} {options : CacheOptions}
    {hosted : Bool} {log : List Event} {system : System}
    (hrun : Run (.start files ttl options hosted) log system) (hwf : files.WellFormed)
    (hchanges : ∀ changed, .changed changed ∈ log → changed.WellFormed) {cycle : Cycle}
    (hcycle : cycle ∈ cycles log) {item : CatalogItem} (hitem : item ∈ cycle.generation.items) :
    item.RendersAsDeclared cycle.generation.library := by
  obtain ⟨-, -, -, between, -, -, -, -, -, hfindings, -⟩ :=
    hrun.properly_built hwf hchanges hcycle
  have hrenders := @Build.rendersAsDeclared between.files cycle.build.findings cycle.number item
  rw [← hfindings] at hrenders
  exact hrenders hitem

/-- A number is declared with a default that is not one. A call that leaves the number out is
rejected for the default, although nothing is wrong with what the call supplies. -/
theorem renders_as_declared_of_wrong_default :
    let text : String :=
      "id: x\ntemplate: hello\narguments:\n  n:\n    type: number\n    default: one\n"
    ∃ log system, Run (.start (singleDocument text) 1000 ⟨4, none, none⟩ false) log system ∧
      ∃ cycle ∈ cycles log, ∃ item ∈ cycle.generation.items, item.id = "x" ∧ ∃ faults,
        item.render cycle.generation.library [] = .error (.invalidArguments "x" faults) := by
  intro text
  -- The default is the value of the argument, and it is no number.
  obtain ⟨log, system, hrun, hkept, cycle, hcycle, item, hitems, hdefines, -⟩ :=
    Run.exists_singleDocument text (fun definition =>
      definition.id == "x" && (definition.arguments.find? "n").any fun argument =>
        argument.default.any fun value => !Json.Schema.isOfType value argument.kind.name) (by
      rw [readItem, readText_singleDocument]
      decide +kernel)
  simp only [Bool.and_eq_true, beq_iff_eq, Option.any_eq_true, Bool.not_eq_true'] at hdefines
  obtain ⟨hid, argument, hargument, value, hvalue, hkind⟩ := hdefines
  have hitem : item ∈ cycle.generation.items := hitems ▸ List.mem_singleton_self item
  have hrenders := hrun.renders_as_declared (wellFormed_singleDocument _)
    (fun changed hmem => absurd hmem (hkept changed)) hcycle hitem
  have hviolates :
      item.definition.arguments.Violates [] "n" (.wrongType value [argument.kind.name]) := by
    refine .wrongKind (Fields.mem_of_find? hargument) ?_ fun hholds => ?_
    · rw [Item.Arguments.effective?, hargument]
      exact hvalue
    · rw [Item.ArgumentKind.isOfType_name_iff.mpr hholds] at hkind
      cases hkind
  obtain ⟨id, faults, hrejected⟩ := (hrenders.rejected_iff []).mpr ⟨_, _, hviolates⟩
  obtain ⟨rfl, -⟩ := hrenders.details [] id faults hrejected
  exact ⟨log, system, hrun, cycle, hcycle, item, hitem, hid, faults, hid ▸ hrejected⟩

end TemplateCatalog
