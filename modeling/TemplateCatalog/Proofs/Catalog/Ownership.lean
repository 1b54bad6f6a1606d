import TemplateCatalog.Proofs.Catalog.Drafts
import TemplateCatalog.Proofs.Catalog.Freshness

/-!
# Who owns an id

The first document whose item compiles owns the id of the item. The documents before it that define
an item with the id have failed to compile, the documents after it are duplicates, and each of them
has exactly one error in the report. Under the name that belongs to the id stands the template of
the owner: no partial can have this name, and no other item has it.

Main statements:

* `Build.filter_errors`: the errors about a document are those of its verdict.
* `Build.owned_of_first`: what becomes of an id if some item with it compiles.
* `Build.free_of_none`: what becomes of an id if none does.
* `Run.first_compiling_owns`: both, for whatever a service builds in the course of a run.
-/

namespace TemplateCatalog

/-! ### Names of templates -/

/-- The stem of a proper location has no slash. -/
theorem Location.IsProper.slash_not_mem_stem {location : Location} (hproper : location.IsProper)
    (hne : location.names ≠ []) : '/' ∉ location.stem.toList := by
  have hname : '/' ∉ location.name.toList := by
    rw [Location.name, List.getLast?_eq_some_getLast hne, Option.getD_some]
    exact (hproper _ (List.getLast_mem hne)).no_slash
  intro hmem
  refine hname ?_
  rw [Location.stem, splitExtension] at hmem
  split at hmem
  · exact hmem
  · rw [String.toList_ofList, List.mem_reverse] at hmem
    have hdropped := (List.dropWhile_sublist _).subset (List.mem_of_mem_drop hmem)
    exact List.mem_reverse.mp hdropped

/-- No partial has the name of an item's template. -/
theorem itemTemplateName_ne_stem {location : Location} (hproper : location.IsProper)
    (hne : location.names ≠ []) (id : String) : location.stem ≠ itemTemplateName id := by
  -- The names of the items' templates have a slash, and a stem has none.
  intro hsame
  refine hproper.slash_not_mem_stem hne ?_
  rw [hsame, itemTemplateName, String.toList_append]
  exact List.mem_append_left _ (by decide)

/-- Partials leave alone what stands under other names than theirs. -/
theorem TemplateSet.find?_loadPartials {fs : FileSystem} {name : String} {locations : List Location}
    (hnames : ∀ location ∈ locations, location.stem ≠ name) (set : TemplateSet) :
    (set.loadPartials fs locations).2.library.find? name = set.library.find? name := by
  induction locations generalizing set with
  | nil => rfl
  | cons location locations ih =>
    have hrest := fun other hother => hnames other (List.mem_cons_of_mem location hother)
    -- Behind the first partial the induction takes over; what is left is this one.
    have hloaded : (set.loadPartials fs (location :: locations)).2 =
        ((set.loadPartial fs location).2.loadPartials fs locations).2 := rfl
    rw [hloaded, ih hrest, loadPartial]
    split
    · rfl
    · split
      · rfl
      · next source _ =>
        cases hread : Template.Compiled.read source with
        | error fault => simp [addPartial, hread, bind, Except.bind]
        | ok template =>
          cases hadded : set.addPartial location.stem source with
          | error fault => rfl
          | ok after =>
            rw [find?_addPartial hread hadded name, if_neg]
            exact fun hsame => hnames location List.mem_cons_self hsame.symm

/-! ### Errors about a document -/

theorem DocumentVerdict.path_of_error? {location : Location} {verdict : DocumentVerdict}
    {error : LoadError} (herror : verdict.error? location = some error) :
    error.path = location.path := by
  unfold error? at herror
  split at herror
  · cases herror
  · next flaw _ =>
    cases herror
    rcases flaw with _ | _ | ⟨_ | _⟩ | _ | _ | _ <;> rfl

theorem PartialVerdict.path_of_error? {location : Location} {verdict : PartialVerdict}
    {error : LoadError} (herror : verdict.error? location = some error) :
    error.path = location.path := by
  cases verdict with
  | registered | shadowed => cases herror
  | unreadable cause | broken fault => cases herror; rfl

/-- Errors about other places are not about a place. -/
theorem LoadError.filter_path_eq_nil {errors : List LoadError} {places : List Location}
    {location : Location} (hat : ∀ error ∈ errors, ∃ place ∈ places, error.path = place.path)
    (hplaces : ∀ place ∈ places, place.IsProper) (hlocation : location.IsProper)
    (hnew : location ∉ places) :
    (errors.filter fun error => error.path = location.path) = [] := by
  refine List.filter_eq_nil_iff.mpr fun error herror hsame => hnew ?_
  obtain ⟨place, hplace, hpath⟩ := hat error herror
  rw [hpath] at hsame
  have hequal := Location.path_injective (hplaces place hplace) hlocation (of_decide_eq_true hsame)
  exact hequal ▸ hplace

/-- The errors of verdicts are about the places of the verdicts. -/
theorem DocumentVerdict.path_of_mem {entries : List (Location × DocumentVerdict)}
    {error : LoadError}
    (herror : error ∈ entries.filterMap fun (place, verdict) => verdict.error? place) :
    ∃ place ∈ entries.map Prod.fst, error.path = place.path := by
  obtain ⟨⟨place, verdict⟩, hplace, herror⟩ := List.mem_filterMap.mp herror
  exact ⟨place, List.mem_map_of_mem hplace, path_of_error? herror⟩

namespace Build

variable {fs : FileSystem} {findings : Findings}

/-- The errors about a document are those of its verdict: none, or one. -/
theorem filter_errors (hproper : findings.IsProper) {location : Location}
    {verdict : DocumentVerdict}
    (hentry : (location, verdict) ∈ (ofFindings fs findings).documents) :
    ((ofFindings fs findings).errors.filter fun error => error.path = location.path) =
      (verdict.error? location).toList := by
  have hdocuments : (ofFindings fs findings).documents.map Prod.fst = findings.documents :=
    Draft.map_fst_loadDocuments _ _ _ _
  have hpartials : (ofFindings fs findings).partials.map Prod.fst = findings.partials :=
    TemplateSet.map_fst_loadPartials _ _ _
  have hlocation : location ∈ findings.documents := hdocuments ▸ List.mem_map_of_mem hentry
  have hplaces : ∀ place ∈ findings.locations, place.IsProper :=
    fun place hplace => (hproper.proper place hplace).1
  have hat : location.IsProper := hplaces location (List.mem_append_right _ hlocation)
  obtain ⟨-, hdistinct, hapart⟩ := List.nodup_append.mp hproper.distinct
  -- The document is none of the directories that could not be listed, and no partial.
  have hfailures : ((findings.failures.map scanError).filter
      fun error => error.path = location.path) = [] := by
    refine LoadError.filter_path_eq_nil (fun error herror => ?_)
      (fun place hplace => hplaces place (List.mem_append_left _ (List.mem_append_left _ hplace)))
      hat fun hmem => hapart _ (List.mem_append_left _ hmem) _ hlocation rfl
    obtain ⟨failure, hfailure, rfl⟩ := List.mem_map.mp herror
    exact ⟨failure.1, List.mem_map_of_mem hfailure, rfl⟩
  have hpartial : ((ofFindings fs findings).partialErrors.filter
      fun error => error.path = location.path) = [] := by
    refine LoadError.filter_path_eq_nil (fun error herror => ?_)
      (fun place hplace => hplaces place (List.mem_append_left _ (List.mem_append_right _ hplace)))
      hat fun hmem => hapart _ (List.mem_append_right _ hmem) _ hlocation rfl
    obtain ⟨⟨place, verdict⟩, hplace, herror⟩ := List.mem_filterMap.mp herror
    exact ⟨place, hpartials ▸ List.mem_map_of_mem hplace, PartialVerdict.path_of_error? herror⟩
  -- The other documents lie elsewhere, too.
  have hdocument : ((ofFindings fs findings).documentErrors.filter
      fun error => error.path = location.path) = (verdict.error? location).toList := by
    obtain ⟨before, after, hsplit⟩ := List.append_of_mem hentry
    rw [hsplit, List.map_append, List.map_cons] at hdocuments
    rw [← hdocuments] at hdistinct
    obtain ⟨-, hafter, hbefore⟩ := List.nodup_append.mp hdistinct
    have hearlier := LoadError.filter_path_eq_nil
      (fun error => @DocumentVerdict.path_of_mem before error)
      (fun place hplace => hplaces place
        (List.mem_append_right _ (hdocuments ▸ List.mem_append_left _ hplace)))
      hat fun hmem => hbefore _ hmem _ List.mem_cons_self rfl
    have hlater := LoadError.filter_path_eq_nil
      (fun error => @DocumentVerdict.path_of_mem after error)
      (fun place hplace => hplaces place (List.mem_append_right _
        (hdocuments ▸ List.mem_append_right _ (List.mem_cons_of_mem _ hplace))))
      hat (List.nodup_cons.mp hafter).1
    rw [documentErrors, hsplit, List.filterMap_append, List.filter_append, hearlier,
      List.nil_append, List.filterMap_cons]
    cases herror : verdict.error? location with
    | none => simpa [herror] using hlater
    | some error => simpa [herror, DocumentVerdict.path_of_error? herror] using hlater
  have herrors : (ofFindings fs findings).errors = findings.failures.map scanError ++
      (ofFindings fs findings).partialErrors ++ (ofFindings fs findings).documentErrors := rfl
  rw [herrors, List.filter_append, List.filter_append, hfailures, hpartial, hdocument]
  rfl

/-! ### Owners in a build -/

/-- Partials own no ids, whatever their files are called. -/
theorem free_initialDraft (hproper : findings.IsProper) (id : String) :
    (initialDraft fs findings).Free id where
  no_item := rfl
  no_template := by
    refine (TemplateSet.find?_loadPartials (fun location hlocation => ?_) _).trans rfl
    obtain ⟨hlocation, hne⟩ := hproper.proper location
      (List.mem_append_left _ (List.mem_append_right _ hlocation))
    exact itemTemplateName_ne_stem hlocation hne id

/-- The errors in the report about a document are those of its verdict. -/
theorem exists_verdict (hproper : findings.IsProper) (number : Nat) {draft : Draft}
    {registry : Registry} {locations : List Location} {place : Location}
    (hplace : place ∈ locations)
    (hentries : (draft.loadDocuments fs registry locations).1 ⊆
      (ofFindings fs findings).documents) :
    ∃ verdict, (place, verdict) ∈ (draft.loadDocuments fs registry locations).1 ∧
      (((ofFindings fs findings).report number).errors.filter
        fun error => error.path = place.path) = (verdict.error? place).toList := by
  rw [← draft.map_fst_loadDocuments fs registry locations] at hplace
  obtain ⟨⟨_, verdict⟩, hentry, rfl⟩ := List.mem_map.mp hplace
  exact ⟨verdict, hentry, filter_errors hproper (hentries hentry)⟩

variable {id : String} {before after : List Location} {location : Location}
  {item : Item.Validated} {template : Template.Compiled}

/-- The documents before the first one whose item compiles have an error that says why theirs do
not, and the documents after it are duplicates. -/
theorem owned_of_first (hproper : findings.IsProper)
    (hsplit : findings.documents = before ++ location :: after)
    (hdefines : Defines fs id location item) (hcompiled : item.compiled? = some template)
    (hfirst : ∀ earlier ∈ before, ∀ other, Defines fs id earlier other → other.compiled? = none)
    (number : Nat) :
    (ofFindings fs findings).draft.Owned id item.definition location template ∧
    (∀ earlier ∈ before, ∀ other, Defines fs id earlier other →
      ∃ error, (((ofFindings fs findings).report number).errors.filter
        fun error => error.path = earlier.path) = [error] ∧ error.IsCompileError) ∧
    ∀ later ∈ after, ∀ other, Defines fs id later other →
      (((ofFindings fs findings).report number).errors.filter
        fun error => error.path = later.path) =
          [(DocumentFlaw.duplicate id location).error later] := by
  -- The id is free up to the owner, and owned from there on.
  obtain ⟨hfree, hbefore⟩ :=
    (@free_initialDraft fs findings hproper id).loadDocuments (registryOf fs findings) hfirst
  obtain ⟨hfinal, hafter⟩ := (hfree.owned_of_compiled (registryOf fs findings) hdefines
    hcompiled).loadDocuments fs (registryOf fs findings) after
  have hdocuments := @documents_ofFindings fs findings
  have hdraft := @draft_ofFindings fs findings
  rw [hsplit, Draft.loadDocuments_append_fst] at hdocuments
  rw [hsplit, Draft.loadDocuments_append_snd] at hdraft
  refine ⟨hdraft ▸ hfinal, fun earlier hearlier other hother => ?_,
    fun later hlater other hother => ?_⟩
  · obtain ⟨verdict, hverdict, herrors⟩ := exists_verdict hproper number hearlier
      (hdocuments ▸ List.subset_append_left _ _)
    obtain ⟨error, herror, hkind⟩ := hbefore _ hverdict other hother
    exact ⟨error, by rw [herrors, herror]; rfl, hkind⟩
  · obtain ⟨verdict, hverdict, herrors⟩ := exists_verdict hproper number hlater
      (hdocuments ▸ List.subset_append_of_subset_right _ (List.subset_cons_self _ _))
    rw [herrors, hafter _ hverdict other hother]
    rfl

/-- If no item with an id compiles, the id stays free, and every document that is about it has an
error that says why its item does not compile. -/
theorem free_of_none (hproper : findings.IsProper)
    (hnone : ∀ location ∈ findings.documents, ∀ item, Defines fs id location item →
      item.compiled? = none) (number : Nat) :
    (ofFindings fs findings).draft.Free id ∧
    ∀ location ∈ findings.documents, ∀ item, Defines fs id location item →
      ∃ error, (((ofFindings fs findings).report number).errors.filter
        fun error => error.path = location.path) = [error] ∧ error.IsCompileError := by
  obtain ⟨hfree, hentries⟩ :=
    (@free_initialDraft fs findings hproper id).loadDocuments (registryOf fs findings) hnone
  refine ⟨draft_ofFindings ▸ hfree, fun location hlocation item hitem => ?_⟩
  obtain ⟨verdict, hverdict, herrors⟩ := exists_verdict hproper number hlocation
    (List.Subset.refl (ofFindings fs findings).documents)
  obtain ⟨error, herror, hkind⟩ := hentries _ hverdict item hitem
  exact ⟨error, by rw [herrors, herror]; rfl, hkind⟩

end Build

/-! ### Owners in a generation -/

/-- Of the documents that define an item with the id, the first one whose item compiles owns it. -/
structure FirstCompilingOwns (fs : FileSystem) (documents : List Location) (id : String)
    (generation : Generation) (report : LoadReport) : Prop where
  /-- If there is one, its item is the only one with the id and is rendered from its own template;
  each such document before it has one error, which says why its item does not compile, and each
  such document after it has one error, which names the owner. -/
  owned : ∀ before location after item template, documents = before ++ location :: after →
    Defines fs id location item → item.compiled? = some template →
      (∀ earlier ∈ before, ∀ other, Defines fs id earlier other → other.compiled? = none) →
        (∃ owner, (generation.items.filter fun item => item.id = id) = [owner] ∧
          owner.definition = item.definition ∧ owner.source = location) ∧
        generation.library.find? (itemTemplateName id) = some template ∧
        (∀ earlier ∈ before, ∀ other, Defines fs id earlier other →
          ∃ error, (report.errors.filter fun error => error.path = earlier.path) = [error] ∧
            error.IsCompileError) ∧
        ∀ later ∈ after, ∀ other, Defines fs id later other →
          ∃ error, (report.errors.filter fun error => error.path = later.path) = [error] ∧
            error.kind = .duplicateId ∧ error.id = id ∧
              error.message = "id '" ++ id ++ "' is already defined by " ++ location.text
  /-- If there is none, there is no item with the id and no template under its name, and each such
  document has one error, which says why its item does not compile. -/
  free : (∀ location ∈ documents, ∀ item, Defines fs id location item → item.compiled? = none) →
    (generation.items.filter fun item => item.id = id) = [] ∧
    generation.library.find? (itemTemplateName id) = none ∧
    ∀ location ∈ documents, ∀ item, Defines fs id location item →
      ∃ error, (report.errors.filter fun error => error.path = location.path) = [error] ∧
        error.IsCompileError

theorem Build.firstCompilingOwns {fs : FileSystem} {findings : Findings}
    (hproper : findings.IsProper) (number : Nat) (id : String) :
    FirstCompilingOwns fs findings.documents id ((ofFindings fs findings).generation number)
      ((ofFindings fs findings).report number) where
  owned before location after item template hsplit hdefines hcompiled hfirst := by
    obtain ⟨howned, hearlier, hlater⟩ :=
      owned_of_first hproper hsplit hdefines hcompiled hfirst number
    rw [items_generation, library_generation]
    exact ⟨howned.one_item, howned.own_template, hearlier, fun later hmem other hother =>
      ⟨_, hlater later hmem other hother, rfl, rfl, rfl⟩⟩
  free hnone := by
    obtain ⟨hfree, herrors⟩ := free_of_none hproper hnone number
    rw [items_generation, library_generation]
    exact ⟨hfree.no_item, hfree.no_template, herrors⟩

/-! ### Owners in what a service publishes -/

theorem FileSystem.WellFormed.reads_isProper {fs : FileSystem} (hwf : fs.WellFormed) :
    fs.Reads fun _ listing => listing.IsProper :=
  fun _ _ hlisting => hwf.isProper_of_listing hlisting

namespace Service

theorem ensures_list_isProper {fs : FileSystem} (hwf : fs.WellFormed) (ttl : Nat)
    (directory : Location) :
    Ensures (Listings.Holds fun _ listing => listing.IsProper) (Listings.list fs ttl directory)
      fun result => ∀ listing, result = .ok listing → listing.IsProper := by
  refine (Listings.ensures_list (hwf.reads_isProper directory)).mono ?_
  rintro result (rfl | ⟨listing, rfl, hproper⟩) found hfound
  · exact hwf.isProper_of_listing hfound
  · cases hfound
    exact hproper

/-- A scan that remembers proper listings finds different places below its root. -/
theorem ensures_scan_isProper {fs : FileSystem} (hwf : fs.WellFormed) (ttl : Nat) {root : Location}
    (hroot : root.IsProper) :
    Ensures (Listings.Holds fun _ listing => listing.IsProper) (scan fs ttl root) fun result =>
      ∀ findings, result = .ok findings → findings.IsProper :=
  ensures_scan_of (Scan.ensures_scan_isProper hroot (ensures_list_isProper hwf ttl))

/-- A build that remembers proper listings is made from different places below the root. -/
theorem exists_findings_of_build {fs : FileSystem} (hwf : fs.WellFormed) {service : Service}
    (hholds : service.listings.Holds fun _ listing => listing.IsProper) {path : Path}
    {build : Build} (hbuild : (service.build fs path).1 = .ok build) :
    build = .ofFindings fs build.findings ∧ build.findings.IsProper :=
  valid_of_build hholds (fun _ hroot => ensures_scan_isProper hwf service.listingTtl
    (hwf.isProper_of_canonicalize (resolve_eq_ok.mp hroot))) hbuild

end Service

/-- If all files are proper in the course of a run, then so is all that is remembered. -/
theorem Run.proper {files : FileSystem} {ttl : Nat} {options : CacheOptions} {hosted : Bool}
    {log : List Event} {system : System} (hrun : Run (.start files ttl options hosted) log system)
    (hwf : files.WellFormed) (hchanges : ∀ changed, .changed changed ∈ log → changed.WellFormed) :
    system.files.WellFormed ∧
      system.service.listings.Holds fun _ listing => listing.IsProper :=
  ⟨hrun.files hwf hchanges, hrun.holds (Listings.holds_start options hosted) hwf.reads_isProper
    fun changed hmem => (hchanges changed hmem).reads_isProper⟩

/-- Every generation that is published in the course of a run was built in files that were
well-formed, from proper findings. -/
theorem Run.properly_built {files : FileSystem} {ttl : Nat} {options : CacheOptions}
    {hosted : Bool} {log : List Event} {system : System}
    (hrun : Run (.start files ttl options hosted) log system) (hwf : files.WellFormed)
    (hchanges : ∀ changed, .changed changed ∈ log → changed.WellFormed) {cycle : Cycle}
    (hcycle : cycle ∈ cycles log) :
    ∃ earlier later path between,
      log = earlier ++ .advanced cycle.call (.building cycle.number path) :: later ∧
      Run (.start files ttl options hosted) earlier between ∧ between.files.WellFormed ∧
      (between.service.listings.Holds fun _ listing => listing.IsProper) ∧
      (between.service.build between.files path).1 = .ok cycle.build ∧
      cycle.build = .ofFindings between.files cycle.build.findings ∧
      cycle.build.findings.IsProper := by
  obtain ⟨earlier, later, path, between, rfl, hearlier, hbuild⟩ := hrun.built_of_mem cycle hcycle
  obtain ⟨hnow, hholds⟩ := hearlier.proper hwf
    fun changed hmem => hchanges changed (List.mem_append_left _ hmem)
  obtain ⟨hfindings, hproper⟩ := Service.exists_findings_of_build hnow hholds hbuild
  exact ⟨earlier, later, path, between, rfl, hearlier, hnow, hholds, hbuild, hfindings, hproper⟩

/-- Every generation that is published in the course of a run was built from files and from what was
found in them. -/
theorem Run.generation_eq {files : FileSystem} {ttl : Nat} {options : CacheOptions}
    {hosted : Bool} {log : List Event} {system : System}
    (hrun : Run (.start files ttl options hosted) log system) (hwf : files.WellFormed)
    (hchanges : ∀ changed, .changed changed ∈ log → changed.WellFormed) {cycle : Cycle}
    (hcycle : cycle ∈ cycles log) :
    ∃ fs findings, cycle.generation = (Build.ofFindings fs findings).generation cycle.number := by
  obtain ⟨-, -, -, between, -, -, -, -, -, hfindings, -⟩ := hrun.properly_built hwf hchanges hcycle
  refine ⟨between.files, cycle.build.findings, ?_⟩
  exact congrArg (fun build => build.generation cycle.number) hfindings

/-- In every generation that is published in the course of a run, the first document that compiles
owns its id, by the files as they were when the generation was built. -/
theorem Run.first_compiling_owns {files : FileSystem} {ttl : Nat} {options : CacheOptions}
    {hosted : Bool} {log : List Event} {system : System}
    (hrun : Run (.start files ttl options hosted) log system) (hwf : files.WellFormed)
    (hchanges : ∀ changed, .changed changed ∈ log → changed.WellFormed) {cycle : Cycle}
    (hcycle : cycle ∈ cycles log) :
    ∃ earlier later path between,
      log = earlier ++ .advanced cycle.call (.building cycle.number path) :: later ∧
      Run (.start files ttl options hosted) earlier between ∧
      (between.service.build between.files path).1 = .ok cycle.build ∧
      (cycle.build.findings.documents.Pairwise fun a b => a.le b = true) ∧
      ∀ id, FirstCompilingOwns between.files cycle.build.findings.documents id cycle.generation
        cycle.report := by
  obtain ⟨earlier, later, path, between, rfl, hearlier, -, -, hbuild, hfindings, hproper⟩ :=
    hrun.properly_built hwf hchanges hcycle
  refine ⟨earlier, later, path, between, rfl, hearlier, hbuild, hproper.documents_sorted,
    fun id => ?_⟩
  have howns := @Build.firstCompilingOwns between.files _ hproper cycle.number id
  rw [← hfindings] at howns
  exact howns

/-- The first of two documents with one id cannot be compiled, so the second one owns the id. -/
theorem first_compiling_owns_of_broken :
    let broken : String := "id: x\ntemplate: '\x7b\x7b'"
    let whole : String := "id: x\ntemplate: hello"
    let files : FileSystem := ⟨.directory true
      [("a.yaml", .file true broken.toUTF8), ("b.yaml", .file true whole.toUTF8)], .top⟩
    ∃ log system, Run (.start files 1000 ⟨4, none, none⟩ false) log system ∧
      ∃ cycle ∈ cycles log, ∃ owner,
        (cycle.generation.items.filter fun item => item.id = "x") = [owner] ∧
          owner.source = ⟨["b.yaml"]⟩ := by
  intro broken whole files
  have hwf : files.WellFormed := by
    refine ⟨.directory true (by decide) (by decide) ?_, Location.isProper_top⟩
    simp only [List.forall_mem_cons]
    exact ⟨.file true _, .file true _, by simp⟩
  -- What the documents define.
  have hbroken : files.readText (Location.path ⟨["a.yaml"]⟩) = .ok broken :=
    FileSystem.readText_path (by decide) (by simp) (by decide) rfl
  have hwhole : files.readText (Location.path ⟨["b.yaml"]⟩) = .ok whole :=
    FileSystem.readText_path (by decide) (by simp) (by decide) rfl
  have hfirst : (readItem files ⟨["a.yaml"]⟩).toOption.bind (·.compiled?) = none := by
    rw [readItem, hbroken]
    decide +kernel
  have hsecond : (readItem files ⟨["b.yaml"]⟩).toOption.map (fun item =>
      (item.definition.id, item.compiled?.isSome)) = some ("x", true) := by
    rw [readItem, hwhole]
    decide +kernel
  -- What a scan finds.
  have htop : files.node? .top = some (.directory true
      [("a.yaml", .file true broken.toUTF8), ("b.yaml", .file true whole.toUTF8)]) := rfl
  have hlisting : files.listing .top = .ok [⟨"a.yaml", .file⟩, ⟨"b.yaml", .file⟩] :=
    FileSystem.listing_top_of_files htop (by simp [isHiddenName]) (by decide)
  obtain ⟨findings, hscan, hdocuments⟩ : ∃ findings,
      Id.run (Scan.scan (m := Id) files.listing .top) = .ok findings ∧
        findings.documents = [⟨["a.yaml"]⟩, ⟨["b.yaml"]⟩] := by
    have hsorted : Location.sort [⟨["a.yaml"]⟩, ⟨["b.yaml"]⟩] = [⟨["a.yaml"]⟩, ⟨["b.yaml"]⟩] :=
      List.mergeSort_of_pairwise (by decide)
    simp only [Scan.scan, hlisting, Id.run, bind, pure]
    exact ⟨_, rfl, hsorted⟩
  -- Who owns the id.
  obtain ⟨log, system, hrun, hcycle, hkept⟩ :=
    Run.exists_load (plainBuild_path_top htop hscan) 1000 ⟨4, none, none⟩ false
  obtain ⟨earlier, later, path, between, hlog, hearlier, -, -, howns⟩ :=
    hrun.first_compiling_owns hwf (fun changed hmem => absurd hmem (hkept changed)) hcycle
  have hfiles : between.files = files := hearlier.files_eq fun changed hmem =>
    hkept changed (hlog ▸ List.mem_append_left _ hmem)
  rw [hfiles] at howns
  cases hread : readItem files ⟨["b.yaml"]⟩ with
  | error flaw => simp [hread, Except.toOption] at hsecond
  | ok item =>
    simp only [hread, Except.toOption, Option.map_some, Option.some.injEq, Prod.mk.injEq,
      Option.isSome_iff_exists] at hsecond
    obtain ⟨hid, template, hcompiled⟩ := hsecond
    have hnone : ∀ place ∈ [Location.mk ["a.yaml"]], ∀ other, Defines files "x" place other →
        other.compiled? = none := by
      rintro place hplace other ⟨hother, -⟩
      rw [List.mem_singleton.mp hplace] at hother
      simpa [hother, Except.toOption] using hfirst
    obtain ⟨⟨owner, howner, -, hsource⟩, -⟩ := (howns "x").owned [⟨["a.yaml"]⟩] ⟨["b.yaml"]⟩ []
      item template hdocuments ⟨hread, hid⟩ hcompiled hnone
    exact ⟨log, system, hrun, _, hcycle, owner, howner, hsource⟩

end TemplateCatalog
