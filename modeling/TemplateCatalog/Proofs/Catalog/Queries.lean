import TemplateCatalog.Proofs.Catalog.Profiles
import TemplateCatalog.Proofs.Text.Trimmed

/-!
# Asking for items

A generation answers in three ways: it finds an item by its id, it lists the items that a filter
admits, and it counts its items by their states. The answers come from an index, from the items and
from a census that are made one after the other while the generation is built; they agree with each
other all the same.

The module introduces:

* `Filter.Matches`: a profile has what a filter asks for;
* `Generation.Indexed`: the index of a generation has the places of its items;
* `QueriesAgree`: all answers of a generation agree.

Main statements:

* `Generation.indexed_ofItems`: every generation has a sound index.
* `Item.Document.named_of_validate`: the id and the titles that a document makes.
* `Build.queriesAgree`: all answers about a build agree.
* `Run.queries_agree`: so do the answers of every generation that a service publishes.
-/

namespace TemplateCatalog

/-! ### Ids and titles -/

namespace Item

/-- A text that is found in a field is not blank. -/
theorem isBlankText_of_textField {fields : Fields Json.Value} {name text : String}
    (hfound : (textField fields name).1 = some text) : Text.isBlankText text = false := by
  unfold textField at hfound
  split at hfound
  · cases hfound
  · cases hfound
  · next found _ =>
    split at hfound
    · cases hfound
    · next hblank =>
      cases hfound
      simpa using hblank
  · cases hfound

/-- A judgement has the id it is asked about, and a title unless it is given a blank one. -/
theorem judge_named (id : String) {title : String} (htitle : Text.isBlankText title = false)
    (metadata : Option Json.Value) :
    (judge id title metadata).profile.id = id ∧
      Text.isBlankText (judge id title metadata).profile.title = false := by
  unfold judge
  split
  · exact ⟨rfl, htitle⟩
  · exact ⟨rfl, htitle⟩
  · next fields =>
    split
    · refine ⟨rfl, ?_⟩
      -- The title of the block counts if there is one.
      show Text.isBlankText ((textField fields "title").1.getD title) = false
      cases hdeclared : (textField fields "title").1 with
      | none => exact htitle
      | some declared => exact isBlankText_of_textField hdeclared
    · exact ⟨rfl, htitle⟩
  · exact ⟨rfl, htitle⟩

/-- The registry changes neither ids nor titles. -/
theorem Profile.named_override (profile : Profile) (entry : Option RegistryEntry) :
    (profile.override entry).id = profile.id ∧ (profile.override entry).title = profile.title := by
  cases entry <;> exact ⟨rfl, rfl⟩

/-- The item of a document has an id without blank space around it and titles that are not blank,
and its judgement has the same id. -/
theorem Document.named_of_validate {document : Document} {item : Validated}
    (hitem : document.validate = .ok item) :
    item.definition.id ≠ "" ∧ Text.IsTrimmed item.definition.id ∧
      Text.isBlankText item.definition.title = false ∧
      item.judgement.profile.id = item.definition.id ∧
      Text.isBlankText item.judgement.profile.title = false := by
  rw [judgement_of_validate hitem]
  unfold validate at hitem
  cases hid : document.itemId? with
  | none => simp [hid] at hitem
  | some id =>
    cases htemplate : document.template with
    | none => simp [hid, htemplate] at hitem
    | some template =>
      simp only [hid, htemplate, Except.ok.injEq] at hitem
      subst hitem
      obtain ⟨hne, htrimmed⟩ : id ≠ "" ∧ Text.IsTrimmed id := by
        unfold itemId? at hid
        cases hwritten : document.id with
        | none => simp [hwritten] at hid
        | some written =>
          simp only [hwritten, Option.map_some, Option.ite_none_left_eq_some,
            Option.some.injEq] at hid
          obtain ⟨hne, rfl⟩ := hid
          exact ⟨hne, Text.isTrimmed_trim written⟩
      -- A blank title gives way to the id, which is not blank.
      have htitle : Text.isBlankText (document.itemTitle id) = false := by
        unfold itemTitle
        split
        · split
          · exact htrimmed.isBlankText_eq_false hne
          · next hblank => simpa using hblank
        · exact htrimmed.isBlankText_eq_false hne
      exact ⟨hne, htrimmed, htitle, judge_named id htitle document.metadata⟩

end Item

/-! ### Filters -/

/-- The profile has what each field of the filter that is set asks for. -/
structure Filter.Matches (filter : Filter) (profile : Item.Profile) : Prop where
  status : ∀ status, filter.status = some status → profile.status = status
  group : ∀ group, filter.group = some group → profile.group = some group
  tag : ∀ tag, filter.tag = some tag → tag ∈ profile.tags
  state : ∀ state, filter.state = some state → profile.state = state

theorem Filter.admits_iff {filter : Filter} {profile : Item.Profile} :
    filter.admits profile = true ↔ filter.Matches profile := by
  simp only [admits, Bool.and_eq_true, Option.all_eq_true, beq_iff_eq, List.contains_iff_mem,
    and_assoc]
  exact ⟨fun ⟨hstatus, hgroup, htag, hstate⟩ => ⟨hstatus, hgroup, htag, hstate⟩,
    fun ⟨hstatus, hgroup, htag, hstate⟩ => ⟨hstatus, hgroup, htag, hstate⟩⟩

instance (filter : Filter) (profile : Item.Profile) : Decidable (filter.Matches profile) :=
  decidable_of_iff _ Filter.admits_iff

/-! ### Indices -/

namespace Generation

/-- An id has a place in the index just if the item at this place has the id. -/
def Indexed (generation : Generation) : Prop :=
  ∀ id place, generation.index.find? id = some place ↔
    ∃ item, generation.items[place]? = some item ∧ item.id = id

theorem indexed_bare (number : Nat) (library : Template.Library) :
    (bare number library).Indexed := by
  intro id place
  simp [bare]

/-- Another item leaves the index sound. -/
theorem Indexed.add {generation : Generation} (hindexed : generation.Indexed)
    (added : CatalogItem) : (generation.add added).Indexed := by
  cases hplace : generation.index.find? added.id with
  | some place =>
    have hsame : generation.add added = generation := if_pos (by simp [Fields.has, hplace])
    rw [hsame]
    exact hindexed
  | none =>
    intro id place
    rw [add_of_find?_eq_none hplace]
    dsimp only
    rw [Fields.find?_insert, List.getElem?_append]
    by_cases hlt : place < generation.items.length
    · rw [if_pos hlt, ← hindexed id place]
      split
      · next hid =>
        -- The place behind the others is not this one, and the id had no place before.
        rw [hid, hplace, Option.some.injEq]
        constructor
        · intro hbehind
          exact absurd hbehind (Nat.ne_of_gt hlt)
        · intro hnone
          cases hnone
      · rfl
    · rw [if_neg hlt]
      split
      · next hid =>
        rw [Option.some.injEq]
        constructor
        · rintro rfl
          exact ⟨added, by simp, hid.symm⟩
        · rintro ⟨item, hitem, -⟩
          obtain ⟨hzero, -⟩ := List.getElem?_eq_some_iff.mp hitem
          rw [List.length_singleton] at hzero
          omega
      · next hid =>
        constructor
        · intro hfound
          obtain ⟨item, hitem, -⟩ := (hindexed id place).mp hfound
          exact absurd (List.getElem?_eq_some_iff.mp hitem).1 hlt
        · rintro ⟨item, hitem, hsame⟩
          rw [List.mem_singleton.mp (List.mem_of_getElem? hitem)] at hsame
          exact absurd hsame.symm hid

/-- Every generation has a sound index. -/
theorem indexed_ofItems (number : Nat) (library : Template.Library) (items : List CatalogItem) :
    (ofItems number library items).Indexed := by
  -- The items are added one after the other, so the index has to be sound before each of them.
  suffices hall : ∀ generation : Generation, generation.Indexed →
      (items.foldl add generation).Indexed from hall _ (indexed_bare number library)
  induction items with
  | nil => exact fun _ hindexed => hindexed
  | cons item items ih => exact fun _ hindexed => ih _ (hindexed.add item)

variable {generation : Generation}

/-- What is found by an id is the item with the id. -/
theorem Indexed.find?_eq_some_iff (hindexed : generation.Indexed) {id : String}
    {item : CatalogItem} :
    generation.find? id = some item ↔ item ∈ generation.items ∧ item.id = id := by
  rw [find?, Option.bind_eq_some_iff]
  constructor
  · rintro ⟨place, hplace, hitem⟩
    obtain ⟨there, hthere, hid⟩ := (hindexed id place).mp hplace
    rw [hthere, Option.some.injEq] at hitem
    subst hitem
    exact ⟨List.mem_of_getElem? hthere, hid⟩
  · rintro ⟨hmem, hid⟩
    obtain ⟨place, hitem⟩ := List.mem_iff_getElem?.mp hmem
    exact ⟨place, (hindexed id place).mpr ⟨item, hitem, hid⟩, hitem⟩

/-- No id has a place where there is no item. -/
theorem Indexed.lt_length (hindexed : generation.Indexed) {id : String} {place : Nat}
    (hplace : generation.index.find? id = some place) : place < generation.items.length := by
  obtain ⟨item, hitem, -⟩ := (hindexed id place).mp hplace
  exact (List.getElem?_eq_some_iff.mp hitem).1

/-- A state is counted as often as a list of the items in this state is long. -/
theorem count_census_eq_length_list (generation : Generation) (state : Item.State) :
    generation.census.count state =
      (generation.list ⟨none, none, none, some state⟩).length := by
  rw [count_census, list, ← List.countP_eq_length_filter, List.countP_map, List.count,
    List.countP_map]
  exact List.countP_congr fun item _ => by simp [Filter.admits]

/-- The census counts every item under one state. -/
theorem total_census_eq_sum (generation : Generation) :
    generation.census.total = generation.census.active + generation.census.legacy +
      generation.census.invalid + generation.census.disabled + generation.census.warning := by
  -- The sum is right after each state, whatever was counted before.
  suffices hall : ∀ (states : List Item.State) (census : Census),
      census.total = census.active + census.legacy + census.invalid + census.disabled +
        census.warning →
      let counted := states.foldl Census.add census
      counted.total = counted.active + counted.legacy + counted.invalid + counted.disabled +
        counted.warning from hall _ _ rfl
  intro states
  induction states with
  | nil => exact fun _ hcensus => hcensus
  | cons state states ih =>
    intro census hcensus
    refine ih (census.add state) ?_
    cases state <;> simp only [Census.add] <;> omega

end Generation

/-! ### Answers that agree -/

/-- All answers of a generation agree with each other and with the report about it. -/
structure QueriesAgree (generation : Generation) (report : LoadReport) : Prop where
  /-- No two items have one id. -/
  distinct : (generation.items.map CatalogItem.id).Nodup
  /-- The definition and the profile of an item have the same id, which is there and has no blank
  space around it, and titles that are not blank. -/
  named : ∀ item ∈ generation.items,
    item.definition.id = item.profile.id ∧ item.definition.id ≠ "" ∧
      Text.IsTrimmed item.definition.id ∧ Text.isBlankText item.definition.title = false ∧
      Text.isBlankText item.profile.title = false
  /-- What is found by an id is the item with the id. -/
  found : ∀ id item, generation.find? id = some item ↔ item ∈ generation.items ∧ item.id = id
  /-- No id has a place where there is no item. -/
  indexed : ∀ id place, generation.index.find? id = some place → place < generation.items.length
  /-- A list of everything has the profile of each item. -/
  all : generation.list .all = generation.items.map CatalogItem.profile
  /-- The items are in strictly ascending order of their documents. -/
  ascending : generation.items.Pairwise fun a b =>
    a.source.le b.source = true ∧ a.source ≠ b.source
  /-- A list has those of all profiles that match the filter, in the same order. -/
  listed : ∀ filter, generation.list filter =
    (generation.list .all).filter fun profile => filter.Matches profile
  /-- The report, the census and its parts count the same items. -/
  counted : generation.census.total = report.compiledCount ∧
    report.compiledCount = generation.items.length ∧
    generation.census.total = generation.census.active + generation.census.legacy +
      generation.census.invalid + generation.census.disabled + generation.census.warning
  /-- A state is counted as often as a list of the items in this state is long. -/
  states : ∀ state, generation.census.count state =
    (generation.list ⟨none, none, none, some state⟩).length

namespace Build

variable {fs : FileSystem} {findings : Findings}

/-- The documents of the items are some of those that were found, in the same order. -/
theorem sources_sublist (fs : FileSystem) (findings : Findings) (number : Nat) :
    (((ofFindings fs findings).generation number).items.map CatalogItem.source).Sublist
      findings.documents := by
  -- A verdict that names an item names one from its own document.
  have hsource : ∀ entry ∈ (ofFindings fs findings).documents,
      entry.2.item?.map CatalogItem.source =
        (Option.guard (fun entry => entry.2.item?.isSome) entry).map Prod.fst := by
    intro entry hentry
    cases hitem : entry.2.item? with
    | none => simp [Option.guard, hitem]
    | some item => simp [Option.guard, hitem, source_of_mem_documents hentry hitem]
  rw [items_eq, List.map_filterMap, List.filterMap_congr hsource, ← List.map_filterMap,
    List.filterMap_eq_filter, ← @map_fst_documents fs findings]
  exact List.filter_sublist.map Prod.fst

/-- All answers about a build agree. -/
theorem queriesAgree (hproper : findings.IsProper) (number : Nat) :
    QueriesAgree ((ofFindings fs findings).generation number)
      ((ofFindings fs findings).report number) := by
  have hindexed : ((ofFindings fs findings).generation number).Indexed :=
    Generation.indexed_ofItems _ _ _
  have hall : ∀ generation : Generation,
      generation.list .all = generation.items.map CatalogItem.profile :=
    fun generation => List.filter_eq_self.mpr fun profile _ => Filter.admits_all profile
  exact {
    distinct := by
      have hnone : ((initialDraft fs findings).items.map CatalogItem.id).Nodup := .nil
      rw [items_generation]
      exact Draft.nodup_ids_loadDocuments hnone _
    named := by
      intro item hitem
      obtain ⟨-, validated, hread, hmade⟩ := madeFrom_of_mem hitem
      obtain ⟨text, document, -, -, hvalidate⟩ := exists_document_of_readItem hread
      obtain ⟨hne, htrimmed, htitle, hid, hprofileTitle⟩ :=
        Item.Document.named_of_validate hvalidate
      obtain ⟨hsameId, hsameTitle⟩ := validated.judgement.profile.named_override
        ((rootRegistry fs findings).find? validated.definition.id)
      rw [hmade]
      exact ⟨(hsameId.trans hid).symm, hne, htrimmed, htitle, hsameTitle.symm ▸ hprofileTitle⟩
    found := fun id item => hindexed.find?_eq_some_iff
    indexed := fun id place hplace => hindexed.lt_length hplace
    all := hall _
    ascending := by
      -- The documents are sorted and distinct, and those of the items are some of them.
      obtain ⟨-, hdocuments, -⟩ := List.nodup_append.mp hproper.distinct
      have hsources := (hproper.documents_sorted.and hdocuments).sublist
        (sources_sublist fs findings number)
      exact List.pairwise_map.mp hsources
    listed := by
      intro filter
      rw [hall, Generation.list]
      refine List.filter_congr fun profile _ => ?_
      rw [Bool.eq_iff_iff, Filter.admits_iff, decide_eq_true_eq]
    counted := ⟨Generation.total_census _, rfl, Generation.total_census_eq_sum _⟩
    states := fun state => Generation.count_census_eq_length_list _ state }

end Build

/-- The answers of every generation that is published in the course of a run agree with each other
and with the report about it. -/
theorem Run.queries_agree {files : FileSystem} {ttl : Nat} {options : CacheOptions} {hosted : Bool}
    {log : List Event} {system : System} (hrun : Run (.start files ttl options hosted) log system)
    (hwf : files.WellFormed) (hchanges : ∀ changed, .changed changed ∈ log → changed.WellFormed)
    {cycle : Cycle} (hcycle : cycle ∈ cycles log) : QueriesAgree cycle.generation cycle.report := by
  obtain ⟨-, -, -, between, -, -, -, -, -, hfindings, hproper⟩ :=
    hrun.properly_built hwf hchanges hcycle
  have hagree := @Build.queriesAgree between.files _ hproper cycle.number
  rw [← hfindings] at hagree
  exact hagree

/-- An item whose id is written with blank space around it is found by the id without it, and it is
the only one that is listed and counted. -/
theorem queries_agree_of_padded_id :
    let text : String := "id: ' x '\ntemplate: hello"
    let files : FileSystem := ⟨.directory true [("a.yaml", .file true text.toUTF8)], .top⟩
    ∃ log system, Run (.start files 1000 ⟨4, none, none⟩ false) log system ∧
      ∃ cycle ∈ cycles log, ∃ item, cycle.generation.find? "x" = some item ∧
        cycle.generation.list .all = [item.profile] ∧ cycle.generation.census.total = 1 := by
  intro text files
  have hwf : files.WellFormed := by
    refine ⟨.directory true (by decide) (by decide) ?_, Location.isProper_top⟩
    simp only [List.forall_mem_cons]
    exact ⟨.file true _, by simp⟩
  -- What the document defines, and what a scan finds.
  have hread : files.readText (Location.path ⟨["a.yaml"]⟩) = .ok text :=
    FileSystem.readText_path (by decide) (by simp) (by decide) rfl
  have hdefines : (readItem files ⟨["a.yaml"]⟩).toOption.map (fun item =>
      (item.definition.id, item.compiled?.isSome)) = some ("x", true) := by
    rw [readItem, hread]
    decide +kernel
  have htop : files.node? .top =
      some (.directory true [("a.yaml", .file true text.toUTF8)]) := rfl
  have hlisting : files.listing .top = .ok [⟨"a.yaml", .file⟩] :=
    FileSystem.listing_top_of_files htop (by simp [isHiddenName]) (by simp)
  obtain ⟨findings, hscan, hdocuments⟩ : ∃ findings,
      Id.run (Scan.scan (m := Id) files.listing .top) = .ok findings ∧
        findings.documents = [⟨["a.yaml"]⟩] := by
    simp only [Scan.scan, hlisting, Id.run, bind, pure]
    exact ⟨_, rfl, List.mergeSort_singleton _⟩
  obtain ⟨log, system, hrun, hcycle, hkept⟩ :=
    Run.exists_load (plainBuild_path_top htop hscan) 1000 ⟨4, none, none⟩ false
  have hagree := hrun.queries_agree hwf (fun changed hmem => absurd hmem (hkept changed)) hcycle
  -- The only document makes the only item.
  obtain ⟨item, hitem, hid, hcompiled⟩ : ∃ item, readItem files ⟨["a.yaml"]⟩ = .ok item ∧
      item.definition.id = "x" ∧ ∃ template, item.compiled? = some template := by
    cases hitem : readItem files ⟨["a.yaml"]⟩ with
    | error flaw => simp [hitem, Except.toOption] at hdefines
    | ok item =>
      simp only [hitem, Except.toOption, Option.map_some, Option.some.injEq, Prod.mk.injEq,
        Option.isSome_iff_exists] at hdefines
      exact ⟨item, rfl, hdefines⟩
  obtain ⟨template, hcompiled⟩ := hcompiled
  obtain ⟨missing, added, hadd, hdefinition, -⟩ := @Draft.addItem_of_compiled
    (Build.registryOf files findings) ⟨["a.yaml"]⟩ item (Build.initialDraft files findings)
    template hcompiled
  have hitems : ((Build.ofFindings files findings).generation 1).items = [added] := by
    have howner : (Build.initialDraft files findings).owner? item.definition.id = none := rfl
    rw [Build.items_generation, Build.draft_ofFindings, hdocuments]
    simp only [Draft.loadDocuments, Draft.loadDocument, hitem, howner, hadd]
    rfl
  refine ⟨log, system, hrun, _, hcycle, added, ?_, ?_, ?_⟩
  · refine (hagree.found "x" added).mpr ⟨hitems ▸ List.mem_singleton_self added, ?_⟩
    rw [CatalogItem.id, hdefinition, hid]
  · exact hagree.all.trans (congrArg (List.map CatalogItem.profile) hitems)
  · obtain ⟨htotal, hcount, -⟩ := hagree.counted
    exact (htotal.trans hcount).trans (congrArg List.length hitems)

end TemplateCatalog
