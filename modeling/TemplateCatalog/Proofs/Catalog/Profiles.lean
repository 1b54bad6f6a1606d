import TemplateCatalog.Proofs.Catalog.Accounts

/-!
# Where profiles come from

The profile of an item is what its own document says of it, with the entry of the registry for its
id applied. A judgement never has to do with the registry: it knows no group and no visibility, and
neither withdraws an item nor claims to come from the registry. So the profile of an item tells
whether the registry has an entry for it, and nothing else in the content tree shows in it.

The module introduces:

* `rootRegistry`: the registry that items are judged by;
* `Profiled`: the items of a generation have the profiles of their own documents.

Main statements:

* `Item.judge_apart`: what a judgement never says.
* `Build.filter_warnings`: the warnings about the registry.
* `Build.profiled`: the items of every build have the profiles of their own documents.
* `Run.profiled_of_mem`: so have the items of all generations that a service publishes.
-/

namespace TemplateCatalog

/-! ### Judgements -/

namespace Item

/-- What a judgement never says: it is not about the registry. -/
structure Profile.IsApart (profile : Profile) : Prop where
  origin : profile.origin ≠ .registry
  state : profile.state ≠ .disabled
  group : profile.group = none
  visibility : profile.visibility = none

theorem Judgement.ofFields_apart (id title : String) (fields : Fields Json.Value) :
    (Judgement.ofFields id title fields).profile.IsApart := by
  refine ⟨by simp [Judgement.ofFields], ?_, rfl, rfl⟩
  simp only [Judgement.ofFields]
  split
  · simp
  · split <;> simp

theorem Judgement.legacy_apart (id title : String) :
    (Judgement.legacy id title).profile.IsApart :=
  ⟨nofun, nofun, rfl, rfl⟩

/-- Whatever the metadata is, its judgement is not about the registry. -/
theorem judge_apart (id title : String) (metadata : Option Json.Value) :
    (judge id title metadata).profile.IsApart := by
  unfold judge
  split
  · exact Judgement.legacy_apart id title
  · exact Judgement.legacy_apart id title
  · split
    · exact Judgement.ofFields_apart id title _
    · exact Judgement.legacy_apart id title
  · exact ⟨nofun, nofun, rfl, rfl⟩

/-- The judgement of an item is about its own id, its own title and the metadata of its document. -/
theorem Document.judgement_of_validate {document : Document} {item : Validated}
    (hitem : document.validate = .ok item) :
    item.judgement = judge item.definition.id item.definition.title document.metadata := by
  unfold validate at hitem
  split at hitem
  · cases hitem
  · split at hitem
    · cases hitem
    · cases hitem
      rfl

/-- An entry shows in the profile that it is applied to. -/
theorem Profile.IsApart.origin_override_iff {profile : Profile} (hapart : profile.IsApart)
    (entry : Option RegistryEntry) :
    (profile.override entry).origin = .registry ↔ ∃ found, entry = some found := by
  cases entry with
  | none => simpa using hapart.origin
  | some found => simp [origin_override]

theorem Profile.IsApart.state_override_iff {profile : Profile} (hapart : profile.IsApart)
    (entry : Option RegistryEntry) :
    (profile.override entry).state = .disabled ↔
      ∃ found, entry = some found ∧ found.deprecated = true := by
  cases entry with
  | none => simpa using hapart.state
  | some found =>
    rw [state_override]
    cases hdeprecated : found.deprecated <;> simp [hapart.state, hdeprecated]

end Item

/-- An item that can be read is what its text defines in the notation of its file. -/
theorem exists_document_of_readItem {fs : FileSystem} {location : Location} {item : Item.Validated}
    (hread : readItem fs location = .ok item) :
    ∃ text document, fs.readText location.path = .ok text ∧
      Item.Document.parse? (location.format?.getD .yaml) text = some document ∧
      document.validate = .ok item := by
  unfold readItem at hread
  cases htext : fs.readText location.path with
  | error cause => simp [htext] at hread
  | ok text =>
    simp only [htext] at hread
    cases hparse : Item.Document.parse? (location.format?.getD .yaml) text with
    | none => simp [hparse] at hread
    | some document =>
      simp only [hparse] at hread
      cases hvalidate : document.validate with
      | error defect => simp [hvalidate] at hread
      | ok validated =>
        simp only [hvalidate, Except.ok.injEq] at hread
        exact ⟨text, document, rfl, hparse, hread ▸ hvalidate⟩

/-- What can be read depends only on the text and the notation of the file. -/
theorem readItem_congr {fs other : FileSystem} {location place : Location}
    (htext : fs.readText location.path = other.readText place.path)
    (hformat : location.format? = place.format?) : readItem fs location = readItem other place := by
  unfold readItem
  rw [htext, hformat]

/-! ### The registry -/

/-- The registry in the content root: what its file holds, and nothing if there is no such file or
if it cannot be read as a registry. -/
def rootRegistry (fs : FileSystem) (findings : Findings) : Registry :=
  (findings.registry.bind fun location => (Registry.load fs location).toOption).getD .empty

theorem PartialVerdict.path_of_warning? {location : Location} {verdict : PartialVerdict}
    {warning : LoadWarning} (hwarning : verdict.warning? location = some warning) :
    warning.path = location.path := by
  cases verdict with
  | shadowed => cases hwarning; rfl
  | registered | unreadable cause | broken fault => cases hwarning

theorem DocumentVerdict.path_of_warnings {location : Location} {verdict : DocumentVerdict}
    {warning : LoadWarning} (hwarning : warning ∈ verdict.warnings location) :
    warning.path = location.path := by
  obtain ⟨missing, -, rfl⟩ := List.mem_map.mp hwarning
  rfl

namespace Build

variable {fs : FileSystem} {findings : Findings} {root location : Location}

theorem registryOf_eq (fs : FileSystem) (findings : Findings) :
    registryOf fs findings = rootRegistry fs findings := by
  unfold registryOf rootRegistry registryOr
  cases findings.registry with
  | none => rfl
  | some location => cases hload : Registry.load fs location <;> simp [hload, Except.toOption]

/-- There is one warning about a registry that gives nothing, and none about one that is sound. -/
theorem filter_warnings (hproper : findings.IsProper) (hapart : findings.RegistryApart root)
    (hregistry : findings.registry = some location) (number : Nat) :
    (((ofFindings fs findings).report number).warnings.filter
      fun warning => warning.path = location.path) =
      match Registry.load fs location with
      | .ok _ => []
      | .error fault =>
        [⟨location.path, none, "registry ignored: " ++ fault.message, fault.text?⟩] := by
  obtain ⟨-, hlocation, hnew⟩ := hapart location hregistry
  -- Warnings about partials and documents are about other places.
  have hother : ∀ place ∈ findings.locations, place.path ≠ location.path :=
    fun place hplace hsame => hnew
      (Location.path_injective (hproper.proper place hplace).1 hlocation hsame ▸ hplace)
  have hpartials : (((ofFindings fs findings).partials.filterMap
      fun entry => entry.2.warning? entry.1).filter
        fun warning => warning.path = location.path) = [] := by
    refine List.filter_eq_nil_iff.mpr fun warning hwarning hsame => ?_
    obtain ⟨entry, hentry, hmade⟩ := List.mem_filterMap.mp hwarning
    have hplace : entry.1 ∈ findings.partials :=
      @map_fst_partials fs findings ▸ List.mem_map_of_mem hentry
    refine hother entry.1 (List.mem_append_left _ (List.mem_append_right _ hplace)) ?_
    rw [← PartialVerdict.path_of_warning? hmade]
    exact of_decide_eq_true hsame
  have hdocuments : (((ofFindings fs findings).documents.flatMap
      fun entry => entry.2.warnings entry.1).filter
        fun warning => warning.path = location.path) = [] := by
    refine List.filter_eq_nil_iff.mpr fun warning hwarning hsame => ?_
    obtain ⟨entry, hentry, hmade⟩ := List.mem_flatMap.mp hwarning
    have hplace : entry.1 ∈ findings.documents :=
      @map_fst_documents fs findings ▸ List.mem_map_of_mem hentry
    refine hother entry.1 (List.mem_append_right _ hplace) ?_
    rw [← DocumentVerdict.path_of_warnings hmade]
    exact of_decide_eq_true hsame
  have hwarnings : ((ofFindings fs findings).report number).warnings =
      (ofFindings fs findings).registryWarning?.toList ++
        ((ofFindings fs findings).partials.filterMap fun entry => entry.2.warning? entry.1) ++
        ((ofFindings fs findings).documents.flatMap fun entry => entry.2.warnings entry.1) := rfl
  have hwarning : (ofFindings fs findings).registryWarning? =
      match Registry.load fs location with
      | .ok _ => none
      | .error fault =>
        some ⟨location.path, none, "registry ignored: " ++ fault.message, fault.text?⟩ := by
    have hfindings : (ofFindings fs findings).findings.registry = some location := hregistry
    have hloaded : (ofFindings fs findings).registry = some (Registry.load fs location) := by
      show findings.registry.map (Registry.load fs) = _
      rw [hregistry, Option.map_some]
    simp only [registryWarning?, hfindings, hloaded]
    cases Registry.load fs location <;> rfl
  rw [hwarnings, List.filter_append, List.filter_append, hpartials, hdocuments, hwarning]
  cases Registry.load fs location <;> simp

/-- Every item of a build is what its own document makes of it. -/
theorem madeFrom_of_mem {number : Nat} {item : CatalogItem}
    (hitem : item ∈ ((ofFindings fs findings).generation number).items) :
    item.source ∈ findings.documents ∧
      item.MadeFrom fs (rootRegistry fs findings) item.source := by
  rw [items_eq] at hitem
  obtain ⟨entry, hentry, hmade⟩ := List.mem_filterMap.mp hitem
  have hplace : entry.1 ∈ findings.documents :=
    @map_fst_documents fs findings ▸ List.mem_map_of_mem hentry
  have hfrom := Draft.madeFrom_of_mem_loadDocuments hentry hmade
  rw [← source_of_mem_documents hentry hmade] at hplace hfrom
  rw [← registryOf_eq]
  exact ⟨hplace, hfrom⟩

end Build

/-! ### Profiles in a generation -/

/-- The items of a generation have the profiles of their own documents, and the registry in the root
shows in the profiles of those items that it has entries for. -/
structure Profiled (fs : FileSystem) (root : Location) (findings : Findings)
    (generation : Generation) (report : LoadReport) : Prop where
  /-- The registry is a file directly in the root. There is just one warning about it if it cannot
  be read as a registry, and none otherwise. -/
  registry : ∀ location, findings.registry = some location →
    (∃ name ∈ Registry.fileNames, location = root.child name) ∧
    (report.warnings.filter fun warning => warning.path = location.path) =
      match Registry.load fs location with
      | .ok _ => []
      | .error fault => [⟨location.path, none, "registry ignored: " ++ fault.message, fault.text?⟩]
  /-- The document of an item defines it, and the profile of the item is the judgement of the
  document's metadata with the entry of the registry for its id applied. -/
  profile : ∀ item ∈ generation.items, ∃ text document validated,
    item.source ∈ findings.documents ∧
    fs.readText item.source.path = .ok text ∧
    Item.Document.parse? (item.source.format?.getD .yaml) text = some document ∧
    document.validate = .ok validated ∧ validated.definition = item.definition ∧
    let own := (Item.judge item.id item.definition.title document.metadata).profile
    own.IsApart ∧ item.profile =
      match (rootRegistry fs findings).find? item.id with
      | none => own
      | some entry =>
        { own with
          state := if entry.deprecated then .disabled else own.state
          origin := .registry
          group := entry.group
          visibility := some entry.visibility }
  /-- The profile of an item comes from the registry just if that has an entry for the item. -/
  origin : ∀ item ∈ generation.items, item.profile.origin = .registry ↔
    ∃ entry, (rootRegistry fs findings).find? item.id = some entry
  /-- An item is disabled just if its entry withdraws it. -/
  state : ∀ item ∈ generation.items, item.profile.state = .disabled ↔
    ∃ entry, (rootRegistry fs findings).find? item.id = some entry ∧ entry.deprecated = true
  /-- Nothing else has an influence on the profile: it is the same in any build of an item from the
  same text in the same notation, with the same entry for its id. -/
  alone : ∀ item ∈ generation.items, ∀ elsewhere others number,
    ∀ other ∈ ((Build.ofFindings elsewhere others).generation number).items,
      fs.readText item.source.path = elsewhere.readText other.source.path →
        item.source.format? = other.source.format? →
          (rootRegistry fs findings).find? item.id =
            (rootRegistry elsewhere others).find? other.id → item.profile = other.profile

/-- The items of every build have the profiles of their own documents. -/
theorem Build.profiled {fs : FileSystem} {findings : Findings} {root : Location}
    (hproper : findings.IsProper) (hapart : findings.RegistryApart root) (number : Nat) :
    Profiled fs root findings ((ofFindings fs findings).generation number)
      ((ofFindings fs findings).report number) where
  registry location hlocation :=
    ⟨(hapart location hlocation).1, filter_warnings hproper hapart hlocation number⟩
  profile item hitem := by
    obtain ⟨hsource, validated, hread, hmade⟩ := madeFrom_of_mem hitem
    obtain ⟨text, document, htext, hparse, hvalidate⟩ := exists_document_of_readItem hread
    have hdefinition : validated.definition = item.definition := by rw [hmade]
    refine ⟨text, document, validated, hsource, htext, hparse, hvalidate, hdefinition,
      Item.judge_apart _ _ _, ?_⟩
    have hprofile : item.profile = validated.judgement.profile.override
        ((rootRegistry fs findings).find? validated.definition.id) := by rw [hmade]
    rw [hprofile, Item.Document.judgement_of_validate hvalidate, hdefinition]
    cases hentry : (rootRegistry fs findings).find? item.definition.id <;>
      simp [CatalogItem.id, hentry, Item.Profile.override]
  origin item hitem := by
    obtain ⟨-, validated, hread, hmade⟩ := madeFrom_of_mem hitem
    obtain ⟨text, document, -, -, hvalidate⟩ := exists_document_of_readItem hread
    rw [hmade, Item.Document.judgement_of_validate hvalidate]
    exact (Item.judge_apart _ _ _).origin_override_iff _
  state item hitem := by
    obtain ⟨-, validated, hread, hmade⟩ := madeFrom_of_mem hitem
    obtain ⟨text, document, -, -, hvalidate⟩ := exists_document_of_readItem hread
    rw [hmade, Item.Document.judgement_of_validate hvalidate]
    exact (Item.judge_apart _ _ _).state_override_iff _
  alone item hitem elsewhere others _ other hother htext hformat hentry := by
    obtain ⟨-, validated, hread, hmade⟩ := madeFrom_of_mem hitem
    obtain ⟨-, again, hagain, hsame⟩ := madeFrom_of_mem hother
    -- The two documents define the same item.
    rw [readItem_congr htext hformat, hagain, Except.ok.injEq] at hread
    subst hread
    have hid : item.id = again.definition.id := by rw [hmade]; rfl
    have hotherId : other.id = again.definition.id := by rw [hsame]; rfl
    have hprofile : item.profile = again.judgement.profile.override
        ((rootRegistry fs findings).find? again.definition.id) := by rw [hmade]
    have hotherProfile : other.profile = again.judgement.profile.override
        ((rootRegistry elsewhere others).find? again.definition.id) := by rw [hsame]
    rw [hid, hotherId] at hentry
    rw [hprofile, hotherProfile, hentry]

namespace Service

/-- A build has a root that its path leads to, and a registry that is found as nothing else. -/
theorem exists_root_of_build {fs : FileSystem} (hwf : fs.WellFormed) {service : Service}
    (hholds : service.listings.Holds fun _ listing => listing.IsProper) {path : Path}
    {build : Build} (hbuild : (service.build fs path).1 = .ok build) :
    ∃ root, fs.canonicalize path = .ok root ∧ build.findings.RegistryApart root := by
  cases hroot : resolve fs path with
  | error fault => simp [Service.build, hroot] at hbuild
  | ok root =>
    have hproper := hwf.isProper_of_canonicalize (resolve_eq_ok.mp hroot)
    have hscan : ∀ other, resolve fs path = .ok other →
        Ensures (Listings.Holds fun _ listing => listing.IsProper)
          (scan fs service.listingTtl other)
          fun result => ∀ findings, result = .ok findings → findings.RegistryApart root := by
      intro other hother
      rw [hroot, Except.ok.injEq] at hother
      exact hother ▸ ensures_scan_of
        (Scan.ensures_scan_registryApart hproper (ensures_list_isProper hwf service.listingTtl))
    exact ⟨root, resolve_eq_ok.mp hroot, (valid_of_build hholds hscan hbuild).2⟩

end Service

/-- In every generation that is published in the course of a run, the items have the profiles of
their own documents under the registry in the root, by the files as they were when the generation
was built. -/
theorem Run.profiled_of_mem {files : FileSystem} {ttl : Nat} {options : CacheOptions}
    {hosted : Bool} {log : List Event} {system : System}
    (hrun : Run (.start files ttl options hosted) log system) (hwf : files.WellFormed)
    (hchanges : ∀ changed, .changed changed ∈ log → changed.WellFormed) {cycle : Cycle}
    (hcycle : cycle ∈ cycles log) :
    ∃ earlier later path between root,
      log = earlier ++ .advanced cycle.call (.building cycle.number path) :: later ∧
      Run (.start files ttl options hosted) earlier between ∧
      between.files.canonicalize path = .ok root ∧
      (between.service.build between.files path).1 = .ok cycle.build ∧
      Profiled between.files root cycle.build.findings cycle.generation cycle.report := by
  obtain ⟨earlier, later, path, between, rfl, hearlier, hnow, hholds, hbuild, hfindings, hproper⟩ :=
    hrun.properly_built hwf hchanges hcycle
  obtain ⟨root, hroot, hapart⟩ := Service.exists_root_of_build hnow hholds hbuild
  refine ⟨earlier, later, path, between, root, rfl, hearlier, hroot, hbuild, ?_⟩
  have hprofiled := @Build.profiled between.files _ root hproper hapart cycle.number
  rw [← hfindings] at hprofiled
  exact hprofiled

/-- A registry that may not be read is warned about just once, and disables nothing. -/
theorem profiled_of_unreadable :
    let files : FileSystem := ⟨.directory true
      [("a.yaml", .file true "id: x\ntemplate: hello".toUTF8),
        ("registry.yaml", .file false "entries: \x7bx: \x7bdeprecated: true\x7d\x7d".toUTF8)],
      .top⟩
    ∃ log system, Run (.start files 1000 ⟨4, none, none⟩ false) log system ∧
      ∃ cycle ∈ cycles log,
        (cycle.report.warnings.filter fun warning =>
          warning.path = Location.path ⟨["registry.yaml"]⟩).length = 1 ∧
        ∀ item ∈ cycle.generation.items, item.profile.state ≠ .disabled := by
  intro files
  have hwf : files.WellFormed := by
    refine ⟨.directory true (by decide) (by decide) ?_, Location.isProper_top⟩
    simp only [List.forall_mem_cons]
    exact ⟨.file true _, .file false _, by simp⟩
  -- What a scan finds.
  have htop : files.node? .top = some files.tree := rfl
  have hlisting : files.listing .top = .ok [⟨"a.yaml", .file⟩, ⟨"registry.yaml", .file⟩] :=
    FileSystem.listing_top_of_files htop (by simp [isHiddenName]) (by decide)
  obtain ⟨findings, hscan, hregistry⟩ : ∃ findings,
      Id.run (Scan.scan (m := Id) files.listing .top) = .ok findings ∧
        findings.registry = some ⟨["registry.yaml"]⟩ := by
    simp only [Scan.scan, hlisting, Id.run, bind, pure]
    exact ⟨_, rfl, by decide⟩
  -- What becomes of the registry.
  obtain ⟨log, system, hrun, hcycle, hkept⟩ :=
    Run.exists_load (plainBuild_path_top htop hscan) 1000 ⟨4, none, none⟩ false
  obtain ⟨earlier, later, path, between, root, hlog, hearlier, -, -, hprofiled⟩ :=
    hrun.profiled_of_mem hwf (fun changed hmem => absurd hmem (hkept changed)) hcycle
  have hfiles : between.files = files := hearlier.files_eq fun changed hmem =>
    hkept changed (hlog ▸ List.mem_append_left _ hmem)
  rw [hfiles] at hprofiled
  have hload : Registry.load files ⟨["registry.yaml"]⟩ =
      .error (.unreadable ⟨["registry.yaml"]⟩ .permissionDenied) := by
    have hcanonical : files.canonicalize (Location.path ⟨["registry.yaml"]⟩) =
        .ok ⟨["registry.yaml"]⟩ :=
      FileSystem.canonicalize_path (by decide) (by simp) ⟨_, rfl, by simp⟩ (by decide)
    have hread : files.readText (Location.path ⟨["registry.yaml"]⟩) = .error .permissionDenied := by
      simp only [FileSystem.readText, FileSystem.stat, hcanonical, bind, Except.bind]
      rfl
    simp only [Registry.load, hread]
  obtain ⟨-, hwarnings⟩ := hprofiled.registry _ hregistry
  rw [hload] at hwarnings
  refine ⟨log, system, hrun, _, hcycle, ?_, fun item hitem hdisabled => ?_⟩
  · rw [hwarnings]
    rfl
  · obtain ⟨entry, hentry, -⟩ := (hprofiled.state item hitem).mp hdisabled
    have hempty : rootRegistry files findings = .empty := by
      simp only [rootRegistry, hregistry, Option.bind_some, hload, Except.toOption,
        Option.getD_none]
    have hnone : (rootRegistry files findings).find? item.id = none := by
      rw [hempty]
      rfl
    exact absurd (hnone.symm.trans hentry) (by simp)

end TemplateCatalog
