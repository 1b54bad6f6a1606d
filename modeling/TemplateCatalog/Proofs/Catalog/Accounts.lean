import TemplateCatalog.Proofs.Catalog.Ownership

/-!
# Accounts of a load

A load gives an account of everything that its scan has found. A document makes one item or has one
error, never both; a partial has an error if it is no template and its name was not taken before;
and a directory that could not be listed has an error. These are all errors there are, in this
order, and whatever is wrong below the root, the load itself goes well.

The module introduces:

* `FileSystem.template?`: the template that the file of a partial makes;
* `InOrder`: errors about some of the places of a list, one each and in order;
* `Accounted`: a report and a generation account for all that a scan has found.

Main statements:

* `TemplateSet.hasPartial_loadPartials`: which names are taken by the partials.
* `Build.accounted`: every build accounts for its findings.
* `Run.load_accounted`: a load of a root that can be listed goes well and accounts for what it
  finds.
-/

namespace TemplateCatalog

/-! ### Documents -/

/-- A verdict names an item or an error. -/
theorem DocumentVerdict.isSome_error? (location : Location) (verdict : DocumentVerdict) :
    (verdict.error? location).isSome = verdict.item?.isNone := by
  obtain ⟨missing, flaw | item⟩ := verdict <;> rfl

/-! ### Partials -/

/-- The template that the file at a location makes, if it makes one. -/
def FileSystem.template? (fs : FileSystem) (location : Location) : Option Template.Compiled :=
  (fs.readText location.path).toOption.bind fun source => (Template.Compiled.read source).toOption

namespace TemplateSet

variable {fs : FileSystem} {location : Location} {set : TemplateSet}

theorem hasPartial_addPartial {name source : String} {after : TemplateSet}
    (hadded : set.addPartial name source = .ok after) (other : String) :
    after.hasPartial other = (set.hasPartial other || name == other) := by
  unfold addPartial at hadded
  cases hread : Template.Compiled.read source with
  | error fault => simp [hread, bind, Except.bind] at hadded
  | ok template =>
    simp only [hread, bind, Except.bind, pure, Except.pure, Except.ok.injEq] at hadded
    subst hadded
    rw [Bool.eq_iff_iff]
    simp [hasPartial, @eq_comm _ other]

/-- A partial has an error if its name is free and its file makes no template, and it takes its name
if the file makes one. -/
theorem loadPartial_spec (fs : FileSystem) (location : Location) (set : TemplateSet) :
    ((set.loadPartial fs location).1.error? location).isSome =
        (!set.hasPartial location.stem && (fs.template? location).isNone) ∧
      ∀ name, (set.loadPartial fs location).2.hasPartial name =
        (set.hasPartial name || (location.stem == name && (fs.template? location).isSome)) := by
  unfold loadPartial FileSystem.template?
  cases hname : set.hasPartial location.stem with
  | true =>
    refine ⟨rfl, fun name => ?_⟩
    -- Nothing is added, and nothing would be new.
    by_cases hsame : location.stem = name
    · subst hsame
      simp [hname]
    · simp [hsame]
  | false =>
    cases hread : fs.readText location.path with
    | error cause => simp [PartialVerdict.error?, Except.toOption]
    | ok source =>
      cases hcompiled : Template.Compiled.read source with
      | error fault =>
        simp [addPartial, hcompiled, bind, Except.bind, PartialVerdict.error?, Except.toOption]
      | ok template =>
        cases hadded : set.addPartial location.stem source with
        | error fault =>
          simp [addPartial, hcompiled, bind, Except.bind, pure, Except.pure] at hadded
        | ok after =>
          simp [hadded, hcompiled, PartialVerdict.error?, Except.toOption,
            hasPartial_addPartial hadded]

/-- A name is taken by the partials whose files make templates. -/
theorem hasPartial_loadPartials (fs : FileSystem) (locations : List Location) (set : TemplateSet)
    (name : String) :
    (set.loadPartials fs locations).2.hasPartial name =
      (set.hasPartial name || locations.any fun location =>
        location.stem == name && (fs.template? location).isSome) := by
  induction locations generalizing set with
  | nil => simp [loadPartials]
  | cons location locations ih =>
    simp only [loadPartials, ih, (loadPartial_spec fs location set).2, List.any_cons, Bool.or_assoc]

theorem loadPartials_append (fs : FileSystem) (before after : List Location) (set : TemplateSet) :
    (set.loadPartials fs (before ++ after)).1 =
      (set.loadPartials fs before).1 ++
        ((set.loadPartials fs before).2.loadPartials fs after).1 := by
  induction before generalizing set with
  | nil => rfl
  | cons location before ih => simp [loadPartials, ih]

end TemplateSet

/-! ### Accounts -/

/-- The errors are about some of the places, one each, and in strictly ascending order of their
locations. -/
structure InOrder (errors : List LoadError) (failed places : List Location) : Prop where
  paths : errors.map LoadError.path = failed.map Location.path
  among : failed.Sublist places
  ascending : failed.Pairwise fun a b => a.le b = true ∧ a ≠ b

/-- A report and a generation account for all that a scan has found. -/
structure Accounted (fs : FileSystem) (findings : Findings) (generation : Generation)
    (report : LoadReport) : Prop where
  /-- Each document is the source of exactly one item and has no error, or it has exactly one error
  and is the source of no item. -/
  documents : ∀ location ∈ findings.documents,
    (∃ item, (generation.items.filter fun item => item.source = location) = [item] ∧
      (report.errors.filter fun error => error.path = location.path) = []) ∨
    ∃ error, (generation.items.filter fun item => item.source = location) = [] ∧
      (report.errors.filter fun error => error.path = location.path) = [error]
  /-- Every item has a document. -/
  sources : ∀ item ∈ generation.items, item.source ∈ findings.documents
  /-- The items are counted. -/
  compiled : report.compiledCount = generation.items.length
  /-- The errors are those of the directories that could not be listed, then those of the partials
  that failed, then those of the documents that failed. A partial has failed if its file makes no
  template and neither does an earlier file of its name; a document has failed if it is the source
  of no item. Together with the items there are as many errors as there are directories that could
  not be listed, partials that failed, and documents. -/
  errors : ∃ failedPartials failedDocuments partialErrors documentErrors,
    report.errors = findings.failures.map Build.scanError ++ partialErrors ++ documentErrors ∧
    InOrder partialErrors failedPartials findings.partials ∧
    InOrder documentErrors failedDocuments findings.documents ∧
    (∀ before location after, findings.partials = before ++ location :: after →
      (location ∈ failedPartials ↔ fs.template? location = none ∧
        ∀ earlier ∈ before, earlier.stem = location.stem → fs.template? earlier = none)) ∧
    (∀ location, location ∈ failedDocuments ↔
      location ∈ findings.documents ∧ ∀ item ∈ generation.items, item.source ≠ location) ∧
    report.errors.length + report.compiledCount =
      findings.failures.length + failedPartials.length + findings.documents.length

namespace Build

variable {fs : FileSystem} {findings : Findings}

/-- The partials that have an error. -/
def failedPartials (build : Build) : List Location :=
  (build.partials.filter fun entry => (entry.2.error? entry.1).isSome).map Prod.fst

/-- The documents that have an error. -/
def failedDocuments (build : Build) : List Location :=
  (build.documents.filter fun entry => (entry.2.error? entry.1).isSome).map Prod.fst

theorem items_eq (fs : FileSystem) (findings : Findings) (number : Nat) :
    ((ofFindings fs findings).generation number).items =
      (ofFindings fs findings).documents.filterMap fun entry => entry.2.item? := by
  rw [items_generation, draft_ofFindings, Draft.items_loadDocuments]
  rfl

theorem map_fst_documents : (ofFindings fs findings).documents.map Prod.fst = findings.documents :=
  Draft.map_fst_loadDocuments _ _ _ _

theorem map_fst_partials : (ofFindings fs findings).partials.map Prod.fst = findings.partials :=
  TemplateSet.map_fst_loadPartials _ _ _

theorem source_of_mem_documents {entry : Location × DocumentVerdict}
    (hentry : entry ∈ (ofFindings fs findings).documents) {item : CatalogItem}
    (hitem : entry.2.item? = some item) : item.source = entry.1 := by
  obtain ⟨_, -, rfl⟩ := Draft.madeFrom_of_mem_loadDocuments hentry hitem
  rfl

/-- The errors of some entries are about the entries that have one. -/
theorem map_path_filterMap {ν : Type} (entries : List (Location × ν))
    (error? : Location → ν → Option LoadError)
    (hpath : ∀ location verdict error, error? location verdict = some error →
      error.path = location.path) :
    (entries.filterMap fun entry => error? entry.1 entry.2).map LoadError.path =
      ((entries.filter fun entry => (error? entry.1 entry.2).isSome).map Prod.fst).map
        Location.path := by
  induction entries with
  | nil => rfl
  | cons entry entries ih =>
    obtain ⟨location, verdict⟩ := entry
    cases herror : error? location verdict with
    | none => simpa [herror] using ih
    | some error => simpa [herror, hpath location verdict error herror] using ih

variable {location : Location} {verdict : DocumentVerdict}

/-- The items from a document are those of its verdict: none, or one. -/
theorem filter_items (hdistinct : findings.documents.Nodup) (number : Nat)
    (hentry : (location, verdict) ∈ (ofFindings fs findings).documents) :
    (((ofFindings fs findings).generation number).items.filter
      fun item => item.source = location) = verdict.item?.toList := by
  have hsources := fun entry hmem item => @source_of_mem_documents fs findings entry hmem item
  rw [← @map_fst_documents fs findings] at hdistinct
  rw [items_eq]
  obtain ⟨before, after, hsplit⟩ := List.append_of_mem hentry
  rw [hsplit] at hsources hdistinct ⊢
  rw [List.map_append, List.map_cons] at hdistinct
  obtain ⟨-, hafter, hbefore⟩ := List.nodup_append.mp hdistinct
  -- The items of other entries come from other documents.
  have hothers : ∀ entries ⊆ before ++ (location, verdict) :: after,
      location ∉ entries.map Prod.fst → ((entries.filterMap fun entry => entry.2.item?).filter
        fun item => item.source = location) = [] := by
    intro entries hsubset hnew
    refine List.filter_eq_nil_iff.mpr fun item hitem hsame => hnew ?_
    obtain ⟨entry, hmem, hitem⟩ := List.mem_filterMap.mp hitem
    rw [← of_decide_eq_true hsame, hsources entry (hsubset hmem) item hitem]
    exact List.mem_map_of_mem hmem
  have hearlier := hothers before (List.subset_append_left _ _)
    fun hmem => hbefore _ hmem _ List.mem_cons_self rfl
  have hlater := hothers after
    (List.subset_append_of_subset_right _ (List.subset_cons_self _ _)) (List.nodup_cons.mp hafter).1
  rw [List.filterMap_append, List.filter_append, hearlier, List.nil_append, List.filterMap_cons]
  cases hitem : verdict.item? with
  | none => simpa [hitem] using hlater
  | some item =>
    have hsource := hsources (location, verdict) (by simp) item hitem
    simpa [hitem, hsource] using hlater

/-- A document has failed if it is the source of no item. -/
theorem mem_failedDocuments (hdistinct : findings.documents.Nodup) (number : Nat) :
    location ∈ (ofFindings fs findings).failedDocuments ↔ location ∈ findings.documents ∧
      ∀ item ∈ ((ofFindings fs findings).generation number).items, item.source ≠ location := by
  have hnone : ∀ verdict, (location, verdict) ∈ (ofFindings fs findings).documents →
      (verdict.item? = none ↔
        ∀ item ∈ ((ofFindings fs findings).generation number).items, item.source ≠ location) := by
    intro verdict hentry
    have hitems := filter_items hdistinct number hentry
    constructor
    · intro hnone item hitem hsource
      rw [hnone, Option.toList_none, List.filter_eq_nil_iff] at hitems
      exact hitems item hitem (decide_eq_true hsource)
    · intro hsources
      rw [List.filter_eq_nil_iff.mpr fun item hitem => by simpa using hsources item hitem] at hitems
      exact Option.toList_eq_nil_iff.mp hitems.symm
  rw [← @map_fst_documents fs findings]
  constructor
  · intro hfailed
    obtain ⟨⟨_, verdict⟩, hentry, rfl⟩ := List.mem_map.mp hfailed
    obtain ⟨hentry, herror⟩ := List.mem_filter.mp hentry
    rw [verdict.isSome_error?, Option.isNone_iff_eq_none] at herror
    exact ⟨List.mem_map_of_mem hentry, (hnone verdict hentry).mp herror⟩
  · rintro ⟨hlocation, hsources⟩
    obtain ⟨⟨_, verdict⟩, hentry, rfl⟩ := List.mem_map.mp hlocation
    refine List.mem_map_of_mem (List.mem_filter.mpr ⟨hentry, ?_⟩)
    rw [verdict.isSome_error?, Option.isNone_iff_eq_none]
    exact (hnone verdict hentry).mpr hsources

/-- A partial has failed if its file makes no template and neither does an earlier file of its
name. -/
theorem mem_failedPartials (hdistinct : findings.partials.Nodup) {before after : List Location}
    (hsplit : findings.partials = before ++ location :: after) :
    location ∈ (ofFindings fs findings).failedPartials ↔ fs.template? location = none ∧
      ∀ earlier ∈ before, earlier.stem = location.stem → fs.template? earlier = none := by
  -- The verdict on the partial is given when the earlier ones have taken their names.
  obtain ⟨herror, -⟩ := TemplateSet.loadPartial_spec fs location
    (TemplateSet.empty.loadPartials fs before).2
  rw [TemplateSet.hasPartial_loadPartials] at herror
  generalize hverdict : ((TemplateSet.empty.loadPartials fs before).2.loadPartial fs location).1 =
    verdict at herror
  have hentry : (location, verdict) ∈ (ofFindings fs findings).partials := by
    have hpartials : (ofFindings fs findings).partials =
        (TemplateSet.empty.loadPartials fs findings.partials).1 := rfl
    rw [hpartials, hsplit, TemplateSet.loadPartials_append, ← hverdict]
    exact List.mem_append_right _ List.mem_cons_self
  have hfailed : location ∈ (ofFindings fs findings).failedPartials ↔
      (verdict.error? location).isSome = true := by
    constructor
    · intro hmem
      obtain ⟨⟨_, other⟩, hother, rfl⟩ := List.mem_map.mp hmem
      obtain ⟨hother, herror⟩ := List.mem_filter.mp hother
      rw [← @map_fst_partials fs findings] at hdistinct
      -- No other verdict is given on this partial.
      have hsame := List.inj_on_of_nodup_map hdistinct hother hentry rfl
      cases hsame
      exact herror
    · exact fun hsome => List.mem_map_of_mem (List.mem_filter.mpr ⟨hentry, hsome⟩)
  rw [hfailed, herror]
  simpa [TemplateSet.hasPartial, TemplateSet.empty] using and_comm

/-- A document makes an item or fails. -/
theorem length_items_add_failedDocuments (fs : FileSystem) (findings : Findings) (number : Nat) :
    ((ofFindings fs findings).generation number).items.length +
      (ofFindings fs findings).failedDocuments.length = findings.documents.length := by
  have hcount := @List.length_eq_countP_add_countP (Location × DocumentVerdict)
    (fun entry => entry.2.item?.isSome) (ofFindings fs findings).documents
  have hfailed : (ofFindings fs findings).failedDocuments.length =
      (ofFindings fs findings).documents.countP fun entry => ¬entry.2.item?.isSome := by
    rw [failedDocuments, List.length_map, ← List.countP_eq_length_filter]
    refine List.countP_congr fun entry _ => ?_
    simp [DocumentVerdict.isSome_error?]
  rw [items_eq, List.length_filterMap_eq_countP, hfailed, ← @map_fst_documents fs findings,
    List.length_map, hcount]

/-- Every build accounts for its findings. -/
theorem accounted (hproper : findings.IsProper) (number : Nat) :
    Accounted fs findings ((ofFindings fs findings).generation number)
      ((ofFindings fs findings).report number) := by
  obtain ⟨hearlier, hdocuments, -⟩ := List.nodup_append.mp hproper.distinct
  obtain ⟨-, hpartials, -⟩ := List.nodup_append.mp hearlier
  have hpartialPaths : (ofFindings fs findings).partialErrors.map LoadError.path =
      (ofFindings fs findings).failedPartials.map Location.path :=
    map_path_filterMap (ofFindings fs findings).partials
      (fun location verdict => verdict.error? location)
      fun _ _ _ herror => PartialVerdict.path_of_error? herror
  have hdocumentPaths : (ofFindings fs findings).documentErrors.map LoadError.path =
      (ofFindings fs findings).failedDocuments.map Location.path :=
    map_path_filterMap (ofFindings fs findings).documents
      (fun location verdict => verdict.error? location)
      fun _ _ _ herror => DocumentVerdict.path_of_error? herror
  have hpartialAmong : (ofFindings fs findings).failedPartials.Sublist findings.partials :=
    @map_fst_partials fs findings ▸ List.filter_sublist.map Prod.fst
  have hdocumentAmong : (ofFindings fs findings).failedDocuments.Sublist findings.documents :=
    @map_fst_documents fs findings ▸ List.filter_sublist.map Prod.fst
  refine ⟨fun location hlocation => ?_, fun item hitem => ?_, rfl,
    (ofFindings fs findings).failedPartials, (ofFindings fs findings).failedDocuments,
    (ofFindings fs findings).partialErrors, (ofFindings fs findings).documentErrors, rfl,
    ⟨hpartialPaths, hpartialAmong, (hproper.partials_sorted.and hpartials).sublist hpartialAmong⟩,
    ⟨hdocumentPaths, hdocumentAmong,
      (hproper.documents_sorted.and hdocuments).sublist hdocumentAmong⟩,
    fun before location after hsplit => mem_failedPartials hpartials hsplit,
    fun location => mem_failedDocuments hdocuments number, ?_⟩
  · -- The verdict on a document is its item or its error.
    rw [← @map_fst_documents fs findings] at hlocation
    obtain ⟨⟨_, verdict⟩, hentry, rfl⟩ := List.mem_map.mp hlocation
    have hitems := filter_items hdocuments number hentry
    have herrors := filter_errors hproper hentry
    obtain ⟨missing, flaw | item⟩ := verdict
    · exact .inr ⟨_, hitems, herrors⟩
    · exact .inl ⟨_, hitems, herrors⟩
  · rw [items_eq] at hitem
    obtain ⟨entry, hentry, hitem⟩ := List.mem_filterMap.mp hitem
    rw [source_of_mem_documents hentry hitem, ← @map_fst_documents fs findings]
    exact List.mem_map_of_mem hentry
  · have hitems := length_items_add_failedDocuments fs findings number
    have hpartialCount := congrArg List.length hpartialPaths
    have hdocumentCount := congrArg List.length hdocumentPaths
    simp only [List.length_map] at hpartialCount hdocumentCount
    simp only [report, errors, List.length_append, List.length_map, hpartialCount, hdocumentCount]
    have hfindings : (ofFindings fs findings).findings = findings := rfl
    rw [hfindings]
    omega

end Build

/-! ### Loads that go well -/

/-- A scan goes well if its root can be listed, whatever cannot be listed below. -/
theorem Scan.ensures_scan_ok {σ : Type} {inv : σ → Prop}
    {list : Location → StateM σ (Except IoError Listing)} {root : Location}
    (hlist : ∀ directory, Ensures inv (list directory) fun _ => True)
    (hroot : Ensures inv (list root) fun result => ∃ listing, result = .ok listing) :
    Ensures inv (scan list root) fun result => ∃ findings, result = .ok findings := by
  refine Ensures.bind hroot fun result hresult => ?_
  obtain ⟨listing, rfl⟩ := hresult
  exact Ensures.bind (ensures_walkEntries_keep (ensures_walk hlist pathLimit) false root _)
    fun found _ => .pure ⟨_, rfl⟩

namespace Service

variable {fs : FileSystem} {path : Path} {root : Location}

theorem ensures_scan_ok {children : List (String × Tree)}
    (hchildren : fs.readDirectory root.path = .ok children) (ttl : Nat) :
    Ensures (Listings.Holds fun _ _ => True) (scan fs ttl root) fun result =>
      ∃ findings, result = .ok findings := by
  have hlist : ∀ directory, Ensures (Listings.Holds fun _ _ => True)
      (Listings.list fs ttl directory) fun _ => True :=
    fun directory => (Listings.ensures_list fun _ _ => trivial).mono fun _ _ => trivial
  have hroot : Ensures (Listings.Holds fun _ _ => True) (Listings.list fs ttl root)
      fun result => ∃ listing, result = .ok listing := by
    refine (Listings.ensures_list fun _ _ => trivial).mono ?_
    rintro result (rfl | ⟨listing, rfl, -⟩)
    · exact FileSystem.exists_listing hchildren
    · exact ⟨listing, rfl⟩
  simp only [scan, FileSystem.stat_of_readDirectory hchildren, Tree.isDirectory, if_true]
  refine Ensures.bind (Scan.ensures_scan_ok hlist hroot) fun result hresult => ?_
  obtain ⟨findings, rfl⟩ := hresult
  exact .pure ⟨findings, rfl⟩

/-- A load that finds the gate free publishes what its scan finds. -/
theorem load_of_scan {service : Service} (hfree : service.loading = false)
    (hroot : fs.canonicalize path = .ok root) {findings : Findings}
    (hscan : (scan fs service.listingTtl root service.listings).1 = .ok findings) :
    (service.load fs path).1 =
        .ok ((Build.ofFindings fs findings).report (service.published.number + 1)) ∧
      (service.load fs path).2.published =
        (Build.ofFindings fs findings).generation (service.published.number + 1) := by
  rcases hresult : scan fs service.listingTtl root service.listings with ⟨outcome, listings⟩
  rw [hresult] at hscan
  cases hscan
  simp only [load, alone, enter?, hfree, Bool.false_eq_true, if_false, cycle, build,
    resolve_eq_ok.mpr hroot, hresult, Except.map, publish, leave, and_self]

end Service

/-- A load that finds the gate free and a root that can be listed goes well, whatever lies below the
root and whatever is remembered, and it accounts for all that its scan has found. -/
theorem Run.load_accounted {files : FileSystem} {ttl : Nat} {options : CacheOptions} {hosted : Bool}
    {log : List Event} {system : System} (hrun : Run (.start files ttl options hosted) log system)
    (hwf : files.WellFormed) (hchanges : ∀ changed, .changed changed ∈ log → changed.WellFormed)
    (hfree : system.service.loading = false) {path : Path} {root : Location}
    (hroot : system.files.canonicalize path = .ok root) {children : List (String × Tree)}
    (hchildren : system.files.readDirectory root.path = .ok children) :
    ∃ findings report,
      (Service.scan system.files system.service.listingTtl root system.service.listings).1 =
        .ok findings ∧
      (system.service.load system.files path).1 = .ok report ∧
      Accounted system.files findings (system.service.load system.files path).2.published
        report := by
  obtain ⟨hnow, hholds⟩ := hrun.proper hwf hchanges
  obtain ⟨findings, hscan⟩ := (Service.ensures_scan_ok hchildren system.service.listingTtl
    system.service.listings fun _ _ => trivial).1
  have hproper : findings.IsProper := (Service.ensures_scan_isProper hnow
    system.service.listingTtl (hnow.isProper_of_canonicalize hroot) system.service.listings
    hholds).1 findings hscan
  obtain ⟨hreport, hpublished⟩ := Service.load_of_scan hfree hroot hscan
  exact ⟨findings, _, hscan, hreport, hpublished ▸ Build.accounted hproper _⟩

/-- A document that compiles is published, although there are a document without an id and a
directory that cannot be listed beside it. -/
theorem load_accounted_of_locked :
    let text : String := "id: x\ntemplate: hello"
    let files : FileSystem := ⟨.directory true [("a.yaml", .file true text.toUTF8),
      ("b.yaml", .file true "template: hello".toUTF8), ("locked", .directory false [])], .top⟩
    let service := Service.start 1000 ⟨4, none, none⟩ false
    ∃ findings report, (service.load files (Location.path .top)).1 = .ok report ∧
      Accounted files findings (service.load files (Location.path .top)).2.published report ∧
        ∃ item ∈ (service.load files (Location.path .top)).2.published.items, item.id = "x" := by
  intro text files service
  have hwf : files.WellFormed := by
    refine ⟨.directory true (by decide) (by decide) ?_, Location.isProper_top⟩
    simp only [List.forall_mem_cons]
    exact ⟨.file true _, .file true _, .directory false .nil (by simp) (by simp), by simp⟩
  have htop : files.canonicalize (Location.path .top) = .ok .top :=
    FileSystem.canonicalize_path_top rfl
  have hchildren := FileSystem.readDirectory_path htop rfl
  obtain ⟨findings, report, -, hreport, haccounted⟩ :=
    Run.load_accounted (.nil (.start files 1000 ⟨4, none, none⟩ false)) hwf (by simp) rfl htop
      hchildren
  refine ⟨findings, report, hreport, haccounted, ?_⟩
  -- A scan finds both documents, and the first one compiles.
  have hlisting : files.listing .top =
      .ok [⟨"a.yaml", .file⟩, ⟨"b.yaml", .file⟩, ⟨"locked", .directory⟩] :=
    FileSystem.listing_of_entries hchildren
      (by simp [FileSystem.entryOf, FileSystem.entryKind?, isHiddenName]) (by decide)
  have hlocked : files.listing ⟨["locked"]⟩ = .error .permissionDenied := by
    have hcanonical : files.canonicalize (Location.path ⟨["locked"]⟩) = .ok ⟨["locked"]⟩ :=
      FileSystem.canonicalize_path (by decide) (by simp) ⟨_, rfl, by simp⟩ (by decide)
    simp only [FileSystem.listing, FileSystem.readDirectory, FileSystem.stat, hcanonical, bind,
      Except.bind]
    rfl
  obtain ⟨found, hscan, hdocuments⟩ : ∃ found,
      Id.run (Scan.scan (m := Id) files.listing .top) = .ok found ∧
        found.documents = [⟨["a.yaml"]⟩, ⟨["b.yaml"]⟩] := by
    have hwalk : Id.run (Scan.walk (m := Id) files.listing pathLimit false ⟨["locked"]⟩) = _ :=
      Scan.run_walk_succ files 4094 _ _
    rw [hlocked] at hwalk
    have hfound : Scan.found files pathLimit .top
        [⟨"a.yaml", .file⟩, ⟨"b.yaml", .file⟩, ⟨"locked", .directory⟩] =
          [.document ⟨["a.yaml"]⟩, .document ⟨["b.yaml"]⟩,
            .unlistable ⟨["locked"]⟩ .permissionDenied] :=
      congrArg (fun found => Finding.ofFile false ⟨["a.yaml"]⟩ ++
        (Finding.ofFile false ⟨["b.yaml"]⟩ ++ (found ++ []))) hwalk
    refine ⟨_, Scan.run_scanTo_of_listing hlisting, ?_⟩
    rw [hfound]
    exact List.mergeSort_of_pairwise (by decide)
  have hpublished :=
    (Service.load_start_comesTo files Location.top.path 1000 ⟨4, none, none⟩ false).published
  rw [plainBuild_path_top rfl hscan] at hpublished
  have htext : files.readText (Location.path ⟨["a.yaml"]⟩) = .ok text :=
    FileSystem.readText_path (by decide) (by simp) (by decide) rfl
  obtain ⟨added, later, hitems, -, hid⟩ := Build.exists_item_of_first hdocuments (·.id == "x")
    (by rw [readItem, htext]; decide +kernel) 1
  rw [hpublished]
  exact ⟨added, hitems ▸ List.mem_cons_self, eq_of_beq hid⟩

end TemplateCatalog
