import Mathlib.Data.List.Basic
import TemplateCatalog.Proofs.Catalog.PlainTree
import TemplateCatalog.Proofs.Catalog.Rejection

/-!
# What the names of partials stand for

Several files may have one stem, and the first of them that can be used, in the order of their
locations, gets the name. The files before it have an error each, the files after it are warned
about as copies, and a name that no file can be used for stands for nothing. The set of names that
are taken and the library of templates are updated side by side, so a document is warned about
exactly those of the partials it declares whose names stand for nothing, even if it turns out not to
compile.

The module introduces:

* `LoadReport.errorsAt`, `LoadReport.warningsAt`: what a report says about a place;
* `LoadError.IsAboutUnusable`: the error says why a file makes no partial;
* `Findings.Registers`: a name is that of a file that makes a partial;
* `PartialsResolved`: the names of a generation stand for the first usable files, and the report
  says what became of the other files and which declared names are missing.

Main statements:

* `Build.errorsAt_partial`, `Build.warningsAt_partial`, `Build.warningsAt_document`: what is said
  about a file comes from its own verdict.
* `TemplateSet.loadPartials_of_none`, `TemplateSet.loadPartials_of_taken`: what becomes of the files
  of one stem before and after the first usable one.
* `Draft.tellsMissing_loadDocuments`: what is said about the partials that a document declares.
* `Run.partials_resolved`: the names of all generations that a service publishes are resolved so.
-/

namespace TemplateCatalog

/-! ### What is said about a place -/

namespace LoadReport

/-- The errors with the path of a place. -/
def errorsAt (location : Location) (report : LoadReport) : List LoadError :=
  report.errors.filter fun error => error.path = location.path

/-- The warnings with the path of a place. -/
def warningsAt (location : Location) (report : LoadReport) : List LoadWarning :=
  report.warnings.filter fun warning => warning.path = location.path

end LoadReport

section Messages

variable {ν μ : Type} {said : Location → ν → List μ} {path : μ → Path} {location : Location}
  {entries : List (Location × ν)}

/-- Entries with other paths say nothing about a place. -/
theorem filter_path_of_ne
    (hpath : ∀ place verdict, ∀ message ∈ said place verdict, path message = place.path)
    (hne : location.path ∉ entries.map fun entry => entry.1.path) :
    ((entries.flatMap fun entry => said entry.1 entry.2).filter
      fun message => path message = location.path) = [] := by
  refine List.filter_eq_nil_iff.mpr fun message hmessage hsame => hne ?_
  obtain ⟨entry, hentry, hsaid⟩ := List.mem_flatMap.mp hmessage
  refine List.mem_map.mpr ⟨entry, hentry, ?_⟩
  rw [← hpath entry.1 entry.2 message hsaid]
  exact of_decide_eq_true hsame

/-- If no two entries have one path, what is said about a place comes from its own entry. -/
theorem filter_path_of_mem
    (hpath : ∀ place verdict, ∀ message ∈ said place verdict, path message = place.path)
    (hdistinct : (entries.map fun entry => entry.1.path).Nodup) {verdict : ν}
    (hentry : (location, verdict) ∈ entries) :
    ((entries.flatMap fun entry => said entry.1 entry.2).filter
      fun message => path message = location.path) = said location verdict := by
  obtain ⟨before, after, rfl⟩ := List.append_of_mem hentry
  rw [List.map_append, List.map_cons] at hdistinct
  obtain ⟨-, hafter, hbefore⟩ := List.nodup_append.mp hdistinct
  have hearlier := filter_path_of_ne hpath fun hmem : location.path ∈ before.map _ =>
    hbefore _ hmem _ List.mem_cons_self rfl
  have hlater := filter_path_of_ne hpath (List.nodup_cons.mp hafter).1
  have hown : ((said location verdict).filter fun message => path message = location.path) =
      said location verdict :=
    List.filter_eq_self.mpr fun message hmessage => by
      rw [hpath location verdict message hmessage, decide_eq_true_eq]
  rw [List.flatMap_append, List.flatMap_cons, List.filter_append, List.filter_append, hearlier,
    hlater, hown, List.nil_append, List.append_nil]

end Messages

theorem PartialVerdict.path_of_mem_error? (place : Location) (verdict : PartialVerdict) :
    ∀ error ∈ (verdict.error? place).toList, error.path = place.path :=
  fun _ hsaid => path_of_error? (Option.mem_toList.mp hsaid)

theorem PartialVerdict.path_of_mem_warning? (place : Location) (verdict : PartialVerdict) :
    ∀ warning ∈ (verdict.warning? place).toList, warning.path = place.path :=
  fun _ hsaid => path_of_warning? (Option.mem_toList.mp hsaid)

theorem DocumentVerdict.path_of_mem_error? (place : Location) (verdict : DocumentVerdict) :
    ∀ error ∈ (verdict.error? place).toList, error.path = place.path :=
  fun _ hsaid => path_of_error? (Option.mem_toList.mp hsaid)

theorem DocumentVerdict.path_of_mem_warnings (place : Location) (verdict : DocumentVerdict) :
    ∀ warning ∈ verdict.warnings place, warning.path = place.path :=
  fun _ hsaid => path_of_warnings hsaid

theorem Build.path_of_mem_scanError (place : Location) (cause : IoError) :
    ∀ error ∈ [Build.scanError (place, cause)], error.path = place.path :=
  fun _ hsaid => List.mem_singleton.mp hsaid ▸ rfl

namespace Build

variable {fs : FileSystem} {findings : Findings} {location : Location}

theorem errors_eq_flatMap (build : Build) :
    build.errors =
      (build.findings.failures.flatMap fun entry => [scanError (entry.1, entry.2)]) ++
        (build.partials.flatMap fun entry => (entry.2.error? entry.1).toList) ++
        build.documents.flatMap fun entry => (entry.2.error? entry.1).toList := by
  rw [← List.filterMap_eq_flatMap_toList, ← List.filterMap_eq_flatMap_toList,
    ← List.map_eq_flatMap]
  rfl

theorem warnings_eq_flatMap (build : Build) :
    build.warnings =
      build.registryWarning?.toList ++
        (build.partials.flatMap fun entry => (entry.2.warning? entry.1).toList) ++
        build.documents.flatMap fun entry => entry.2.warnings entry.1 := by
  rw [← List.filterMap_eq_flatMap_toList]
  rfl

/-- No two entries have one path. -/
theorem nodup_paths (fs : FileSystem) (hproper : findings.IsProper) :
    ((findings.failures.map fun entry => entry.1.path) ++
      ((ofFindings fs findings).partials.map fun entry => entry.1.path) ++
      (ofFindings fs findings).documents.map fun entry => entry.1.path).Nodup := by
  have hpaths : (findings.locations.map Location.path).Nodup :=
    (List.nodup_map_iff_inj_on hproper.distinct).mpr fun _ hfirst _ hsecond hpath =>
      hproper.eq_of_path hfirst hsecond hpath
  rw [Findings.locations, ← @map_fst_partials fs findings, ← @map_fst_documents fs findings,
    List.map_append, List.map_append, List.map_map, List.map_map, List.map_map] at hpaths
  exact hpaths

/-- The errors about a partial are those of its own verdict. -/
theorem errorsAt_partial (hproper : findings.IsProper) (number : Nat) {verdict : PartialVerdict}
    (hentry : (location, verdict) ∈ (ofFindings fs findings).partials) :
    ((ofFindings fs findings).report number).errorsAt location =
      (verdict.error? location).toList := by
  obtain ⟨hothers, -, hapart⟩ := List.nodup_append.mp (nodup_paths fs hproper)
  obtain ⟨-, hdistinct, hfailuresApart⟩ := List.nodup_append.mp hothers
  have hmem : location.path ∈ (ofFindings fs findings).partials.map fun entry => entry.1.path :=
    List.mem_map_of_mem hentry
  have hfailures := filter_path_of_ne path_of_mem_scanError fun hfailure =>
    hfailuresApart _ hfailure _ hmem rfl
  have hdocuments := filter_path_of_ne DocumentVerdict.path_of_mem_error? fun hdocument =>
    hapart _ (List.mem_append_right _ hmem) _ hdocument rfl
  have hown := filter_path_of_mem PartialVerdict.path_of_mem_error? hdistinct hentry
  show (ofFindings fs findings).errors.filter _ = _
  rw [errors_eq_flatMap, List.filter_append, List.filter_append, hown, hdocuments]
  exact (List.append_nil _).trans (congrArg (· ++ _) hfailures)

/-- The registry has a path of its own. -/
theorem filter_registryWarning? (hproper : findings.IsProper) {root : Location}
    (hregistry : findings.RegistryApart root) (hlocation : location ∈ findings.locations) :
    (((ofFindings fs findings).registryWarning?.toList).filter
      fun warning => warning.path = location.path) = [] := by
  refine List.filter_eq_nil_iff.mpr fun warning hwarning hsame => ?_
  rw [Option.mem_toList, registryWarning?] at hwarning
  split at hwarning
  · next place _ hplace _ =>
    cases hwarning
    obtain ⟨-, hat, hnew⟩ := hregistry place hplace
    refine hnew ?_
    rw [Location.path_injective hat (hproper.proper location hlocation).1 (of_decide_eq_true hsame)]
    exact hlocation
  · cases hwarning

/-- The warnings about a partial are those of its own verdict. -/
theorem warningsAt_partial (hproper : findings.IsProper) {root : Location}
    (hregistry : findings.RegistryApart root) (number : Nat) {verdict : PartialVerdict}
    (hentry : (location, verdict) ∈ (ofFindings fs findings).partials) :
    ((ofFindings fs findings).report number).warningsAt location =
      (verdict.warning? location).toList := by
  obtain ⟨hothers, -, hapart⟩ := List.nodup_append.mp (nodup_paths fs hproper)
  obtain ⟨-, hdistinct, -⟩ := List.nodup_append.mp hothers
  have hmem : location.path ∈ (ofFindings fs findings).partials.map fun entry => entry.1.path :=
    List.mem_map_of_mem hentry
  have hplace : location ∈ findings.locations := by
    refine List.mem_append_left _ (List.mem_append_right _ ?_)
    exact @map_fst_partials fs findings ▸ List.mem_map_of_mem hentry
  have hdocuments := filter_path_of_ne DocumentVerdict.path_of_mem_warnings fun hdocument =>
    hapart _ (List.mem_append_right _ hmem) _ hdocument rfl
  have hown := filter_path_of_mem PartialVerdict.path_of_mem_warning? hdistinct hentry
  show (ofFindings fs findings).warnings.filter _ = _
  rw [warnings_eq_flatMap, List.filter_append, List.filter_append, hown, hdocuments,
    filter_registryWarning? hproper hregistry hplace, List.nil_append, List.append_nil]

/-- The warnings about a document are those of its own verdict. -/
theorem warningsAt_document (hproper : findings.IsProper) {root : Location}
    (hregistry : findings.RegistryApart root) (number : Nat) {verdict : DocumentVerdict}
    (hentry : (location, verdict) ∈ (ofFindings fs findings).documents) :
    ((ofFindings fs findings).report number).warningsAt location = verdict.warnings location := by
  obtain ⟨-, hdistinct, hapart⟩ := List.nodup_append.mp (nodup_paths fs hproper)
  have hmem : location.path ∈ (ofFindings fs findings).documents.map fun entry => entry.1.path :=
    List.mem_map_of_mem hentry
  have hplace : location ∈ findings.locations :=
    List.mem_append_right _ (@map_fst_documents fs findings ▸ List.mem_map_of_mem hentry)
  have hpartials := filter_path_of_ne PartialVerdict.path_of_mem_warning? fun hpartial =>
    hapart _ (List.mem_append_right _ hpartial) _ hmem rfl
  have hown := filter_path_of_mem DocumentVerdict.path_of_mem_warnings hdistinct hentry
  show (ofFindings fs findings).warnings.filter _ = _
  rw [warnings_eq_flatMap, List.filter_append, List.filter_append, hown, hpartials,
    filter_registryWarning? hproper hregistry hplace, List.nil_append, List.nil_append]

end Build

/-! ### Files of one stem -/

/-- The error says why the file at a place makes no partial: it cannot be read as text, or its text
is no template, which the error keeps then. -/
def LoadError.IsAboutUnusable (fs : FileSystem) (location : Location) (error : LoadError) : Prop :=
  (∃ cause, fs.readText location.path = .error cause ∧
    error = .make location.path (some location.stem) .io cause.message) ∨
  ∃ source fault, fs.readText location.path = .ok source ∧
    Template.Compiled.read source = .error fault ∧
    error = (LoadError.make location.path (some location.stem) .template fault.text).about source

namespace TemplateSet

variable {fs : FileSystem} {location : Location} {set : TemplateSet} {stem : String}
  {locations : List Location}

/-- A file whose name is taken is passed over. -/
theorem loadPartial_of_taken (htaken : set.hasPartial location.stem = true) :
    set.loadPartial fs location = (.shadowed, set) := by
  simp [loadPartial, htaken]

/-- A file that cannot be used has an error and leaves everything as it is. -/
theorem loadPartial_of_unusable (hfree : set.hasPartial location.stem = false)
    (hnone : fs.template? location = none) :
    ∃ verdict error, set.loadPartial fs location = (verdict, set) ∧
      verdict.error? location = some error ∧ verdict.warning? location = none ∧
      error.IsAboutUnusable fs location := by
  unfold FileSystem.template? at hnone
  cases hread : fs.readText location.path with
  | error cause =>
    exact ⟨.unreadable cause, _, by simp [loadPartial, hfree, hread], rfl, rfl,
      .inl ⟨cause, hread, rfl⟩⟩
  | ok source =>
    cases hcompiled : Template.Compiled.read source with
    | ok template => simp [hread, hcompiled, Except.toOption] at hnone
    | error fault =>
      exact ⟨.broken fault source, _, by
        simp [loadPartial, hfree, hread, addPartial, hcompiled, bind, Except.bind], rfl, rfl,
        .inr ⟨source, fault, hread, hcompiled, rfl⟩⟩

/-- The first file that can be used takes the name, and its template stands under it. -/
theorem loadPartial_of_usable (hfree : set.hasPartial location.stem = false)
    {template : Template.Compiled} (htemplate : fs.template? location = some template) :
    set.loadPartial fs location =
      (.registered, ⟨set.partials ++ [location.stem],
        Fields.insert location.stem template set.library⟩) := by
  unfold FileSystem.template? at htemplate
  cases hread : fs.readText location.path with
  | error cause => simp [hread, Except.toOption] at htemplate
  | ok source =>
    cases hcompiled : Template.Compiled.read source with
    | error fault => simp [hread, hcompiled, Except.toOption] at htemplate
    | ok compiled =>
      simp only [hread, hcompiled, Except.toOption, Option.bind_some, Option.some.injEq]
        at htemplate
      subst htemplate
      simp [loadPartial, hfree, hread, addPartial, hcompiled, bind, Except.bind, pure, Except.pure]

/-- A file leaves alone what stands under other names than its own. -/
theorem find?_loadPartial_of_ne (hne : location.stem ≠ stem) :
    (set.loadPartial fs location).2.library.find? stem = set.library.find? stem :=
  find?_loadPartials (List.forall_mem_singleton.mpr hne) set

theorem hasPartial_loadPartial_of_ne (hne : location.stem ≠ stem) :
    (set.loadPartial fs location).2.hasPartial stem = set.hasPartial stem := by
  rw [(loadPartial_spec fs location set).2, beq_eq_false_iff_ne.mpr hne, Bool.false_and,
    Bool.or_false]

/-- As long as no file of a stem can be used, the name stays free, and each of the files has an
error that says why. -/
theorem loadPartials_of_none (hfree : set.hasPartial stem = false)
    (hnone : ∀ location ∈ locations, location.stem = stem → fs.template? location = none) :
    (set.loadPartials fs locations).2.hasPartial stem = false ∧
      (set.loadPartials fs locations).2.library.find? stem = set.library.find? stem ∧
      ∀ entry ∈ (set.loadPartials fs locations).1, entry.1.stem = stem →
        ∃ error, entry.2.error? entry.1 = some error ∧ entry.2.warning? entry.1 = none ∧
          error.IsAboutUnusable fs entry.1 := by
  induction locations generalizing set with
  | nil => exact ⟨hfree, rfl, by simp [loadPartials]⟩
  | cons location locations ih =>
    rw [List.forall_mem_cons] at hnone
    simp only [loadPartials]
    by_cases hstem : location.stem = stem
    · -- The file has an error and leaves the set as it is.
      obtain ⟨verdict, error, hload, herror, hwarning, habout⟩ :=
        @loadPartial_of_unusable fs location set (hstem ▸ hfree) (hnone.1 hstem)
      rw [hload]
      obtain ⟨hstays, hlibrary, hentries⟩ := ih hfree hnone.2
      refine ⟨hstays, hlibrary, List.forall_mem_cons.mpr ⟨fun _ => ?_, hentries⟩⟩
      exact ⟨error, herror, hwarning, habout⟩
    · -- A file of another stem may take its own name, but not this one.
      obtain ⟨hstays, hlibrary, hentries⟩ :=
        ih ((hasPartial_loadPartial_of_ne hstem).trans hfree) hnone.2
      refine ⟨hstays, hlibrary.trans (find?_loadPartial_of_ne hstem),
        List.forall_mem_cons.mpr ⟨fun hsame => absurd hsame hstem, hentries⟩⟩

/-- Once a name is taken, what stands under it stays, and every further file of the stem is passed
over. -/
theorem loadPartials_of_taken (htaken : set.hasPartial stem = true) (locations : List Location) :
    (set.loadPartials fs locations).2.library.find? stem = set.library.find? stem ∧
      ∀ entry ∈ (set.loadPartials fs locations).1, entry.1.stem = stem → entry.2 = .shadowed := by
  induction locations generalizing set with
  | nil => exact ⟨rfl, by simp [loadPartials]⟩
  | cons location locations ih =>
    simp only [loadPartials]
    by_cases hstem : location.stem = stem
    · rw [@loadPartial_of_taken fs location set (hstem ▸ htaken)]
      obtain ⟨hlibrary, hentries⟩ := ih htaken
      exact ⟨hlibrary, List.forall_mem_cons.mpr ⟨fun _ => rfl, hentries⟩⟩
    · obtain ⟨hlibrary, hentries⟩ := ih ((hasPartial_loadPartial_of_ne hstem).trans htaken)
      exact ⟨hlibrary.trans (find?_loadPartial_of_ne hstem),
        List.forall_mem_cons.mpr ⟨fun hsame => absurd hsame hstem, hentries⟩⟩

theorem loadPartials_append_snd (before after : List Location) (set : TemplateSet) :
    (set.loadPartials fs (before ++ after)).2 =
      ((set.loadPartials fs before).2.loadPartials fs after).2 := by
  induction before generalizing set with
  | nil => rfl
  | cons location before ih => simp [loadPartials, ih]

/-- The first file of a stem that can be used gets the name. -/
theorem loadPartials_of_first {before after : List Location} {template : Template.Compiled}
    (hfree : set.hasPartial location.stem = false)
    (htemplate : fs.template? location = some template)
    (hfirst : ∀ earlier ∈ before, earlier.stem = location.stem → fs.template? earlier = none) :
    (set.loadPartials fs (before ++ location :: after)).2.library.find? location.stem =
        some template ∧
      ∃ earlier later, earlier.map Prod.fst = before ∧ later.map Prod.fst = after ∧
        (set.loadPartials fs (before ++ location :: after)).1 =
          earlier ++ (location, .registered) :: later ∧
        (∀ entry ∈ earlier, entry.1.stem = location.stem →
          ∃ error, entry.2.error? entry.1 = some error ∧ entry.2.warning? entry.1 = none ∧
            error.IsAboutUnusable fs entry.1) ∧
        ∀ entry ∈ later, entry.1.stem = location.stem → entry.2 = .shadowed := by
  -- The name is free up to this file, and taken from there on.
  obtain ⟨hstill, -, hbefore⟩ := loadPartials_of_none hfree hfirst
  have hload := loadPartial_of_usable hstill htemplate
  have htaken : hasPartial location.stem
      ⟨(set.loadPartials fs before).2.partials ++ [location.stem],
        Fields.insert location.stem template (set.loadPartials fs before).2.library⟩ = true := by
    simp [hasPartial]
  obtain ⟨hlibrary, hafter⟩ := @loadPartials_of_taken fs _ _ htaken after
  rw [loadPartials_append, loadPartials_append_snd]
  simp only [loadPartials, hload, hlibrary]
  exact ⟨(Fields.find?_insert _ _ _ _).trans (if_pos rfl), _, _, map_fst_loadPartials fs _ _,
    map_fst_loadPartials fs _ _, rfl, hbefore, hafter⟩

end TemplateSet

/-! ### Declared partials -/

/-- The name is the stem of a partial that was found and can be used. -/
def Findings.Registers (fs : FileSystem) (name : String) (findings : Findings) : Prop :=
  ∃ location ∈ findings.partials, location.stem = name ∧ (fs.template? location).isSome

instance (fs : FileSystem) (name : String) (findings : Findings) :
    Decidable (findings.Registers fs name) :=
  inferInstanceAs (Decidable (∃ location ∈ findings.partials,
    location.stem = name ∧ (fs.template? location).isSome))

/-- What a verdict says about the partials that a document declares. If the document defines an item
whose id is free, these are the ones whose names are not taken, in order, even if the item does not
compile. Otherwise there are none. -/
def DocumentVerdict.TellsMissing (fs : FileSystem) (taken : List String) (location : Location)
    (verdict : DocumentVerdict) : Prop :=
  (∃ item, readItem fs location = .ok item ∧
    (∀ id owner, verdict.outcome ≠ .error (.duplicate id owner)) ∧
    verdict.missing = (item.judgement.partials.filter fun name => !taken.contains name).map
      fun name => (item.definition.id, name)) ∨
  ((∃ flaw, readItem fs location = .error flaw) ∨
      ∃ id owner, verdict.outcome = .error (.duplicate id owner)) ∧
    verdict.missing = []

/-- A flaw that keeps an item from compiling is not that its id is taken. -/
theorem DocumentFlaw.ne_duplicate {flaw : DocumentFlaw} {location : Location}
    (hkind : (flaw.error location).IsCompileError) (id : String) (owner : Location) :
    flaw ≠ .duplicate id owner := by
  rintro rfl
  rcases hkind with hkind | hkind <;> cases hkind

namespace Draft

variable {fs : FileSystem} {registry : Registry} {draft : Draft}

/-- A document takes no name of a partial, and puts nothing under a name that belongs to no item. -/
theorem templates_loadDocument (location : Location) (draft : Draft) :
    (draft.loadDocument fs registry location).2.templates.partials = draft.templates.partials ∧
      ∀ name, (∀ id, name ≠ itemTemplateName id) →
        (draft.loadDocument fs registry location).2.templates.library.find? name =
          draft.templates.library.find? name := by
  rcases draft.loadDocument_cases fs registry location with ⟨flaw, -, hload⟩ |
    ⟨item, owner, -, -, hload⟩ | ⟨item, flaw, -, -, -, -, hload⟩ |
    ⟨item, template, added, -, -, -, -, -, hload⟩
  · exact hload ▸ ⟨rfl, fun _ _ => rfl⟩
  · exact hload ▸ ⟨rfl, fun _ _ => rfl⟩
  · exact hload ▸ ⟨rfl, fun _ _ => rfl⟩
  · rw [hload]
    exact ⟨rfl, fun name hname => (Fields.find?_insert _ _ _ _).trans (if_neg (hname _))⟩

theorem templates_loadDocuments (locations : List Location) (draft : Draft) :
    (draft.loadDocuments fs registry locations).2.templates.partials = draft.templates.partials ∧
      ∀ name, (∀ id, name ≠ itemTemplateName id) →
        (draft.loadDocuments fs registry locations).2.templates.library.find? name =
          draft.templates.library.find? name := by
  induction locations generalizing draft with
  | nil => exact ⟨rfl, fun _ _ => rfl⟩
  | cons location locations ih =>
    obtain ⟨hnames, hlibrary⟩ := @templates_loadDocument fs registry location draft
    obtain ⟨hrest, hfinal⟩ := @ih (draft.loadDocument fs registry location).2
    exact ⟨hrest.trans hnames, fun name hname =>
      (hfinal name hname).trans (hlibrary name hname)⟩

theorem tellsMissing_loadDocument (location : Location) (draft : Draft) :
    (draft.loadDocument fs registry location).1.TellsMissing fs draft.templates.partials
      location := by
  rcases draft.loadDocument_cases fs registry location with ⟨flaw, hread, hload⟩ |
    ⟨item, owner, -, -, hload⟩ | ⟨item, flaw, hread, -, -, hkind, hload⟩ |
    ⟨item, template, added, hread, -, -, -, -, hload⟩
  · exact hload ▸ .inr ⟨.inl ⟨flaw, hread⟩, rfl⟩
  · exact hload ▸ .inr ⟨.inr ⟨_, owner, rfl⟩, rfl⟩
  · -- The partials are looked up before the item is compiled.
    rw [hload]
    refine .inl ⟨item, hread, fun id owner hduplicate => ?_, rfl⟩
    exact DocumentFlaw.ne_duplicate hkind id owner (Except.error.inj hduplicate)
  · exact hload ▸ .inl ⟨item, hread, nofun, rfl⟩

/-- Every verdict is given by the names that the partials have taken. -/
theorem tellsMissing_loadDocuments {taken : List String} (locations : List Location) {draft : Draft}
    (htaken : draft.templates.partials = taken) :
    ∀ entry ∈ (draft.loadDocuments fs registry locations).1,
      entry.2.TellsMissing fs taken entry.1 := by
  induction locations generalizing draft with
  | nil => simp [loadDocuments]
  | cons location locations ih =>
    refine List.forall_mem_cons.mpr ⟨htaken ▸ tellsMissing_loadDocument location draft, ?_⟩
    exact ih ((templates_loadDocument location draft).1.trans htaken)

end Draft

/-! ### Names in a generation -/

/-- The message about a declared partial that is not there. -/
def missingMessage (name : String) : String :=
  "declared partial '" ++ name ++ "' does not exist"

/-- The report has an error that the id of the document at a place is taken. -/
def LoadReport.HasDuplicateAt (location : Location) (report : LoadReport) : Prop :=
  ∃ error ∈ report.errorsAt location, error.kind = .duplicateId

/-- The names of partials stand for the first files that can be used, the report says what became of
the other files, and documents are warned about the names that stand for nothing. -/
structure PartialsResolved (fs : FileSystem) (findings : Findings) (generation : Generation)
    (report : LoadReport) : Prop where
  /-- The first file of a stem that can be used has its template under the stem, and nothing is said
  about it. Each file of the stem before it has one error, which says why it cannot be used, and
  each file of the stem after it has one warning that it is another copy. -/
  registered : ∀ before location after template,
    findings.partials = before ++ location :: after → fs.template? location = some template →
      (∀ earlier ∈ before, earlier.stem = location.stem → fs.template? earlier = none) →
        generation.library.find? location.stem = some template ∧
        report.errorsAt location = [] ∧ report.warningsAt location = [] ∧
        (∀ earlier ∈ before, earlier.stem = location.stem →
          (∃ error, report.errorsAt earlier = [error] ∧ error.IsAboutUnusable fs earlier) ∧
            report.warningsAt earlier = []) ∧
        ∀ later ∈ after, later.stem = location.stem →
          report.errorsAt later = [] ∧
            report.warningsAt later = [⟨later.path, none, copyMessage location.stem, none⟩]
  /-- If no file of a stem can be used, nothing stands under the stem, and each file of the stem has
  one error, which says why it cannot be used. -/
  unregistered : ∀ stem, '/' ∉ stem.toList →
    (∀ location ∈ findings.partials, location.stem = stem → fs.template? location = none) →
      generation.library.find? stem = none ∧
      ∀ location ∈ findings.partials, location.stem = stem →
        (∃ error, report.errorsAt location = [error] ∧ error.IsAboutUnusable fs location) ∧
          report.warningsAt location = []
  /-- A document that defines an item and is no duplicate is warned about each declared partial
  whose name stands for nothing, once for each time that it is declared, in order. -/
  declared : ∀ location ∈ findings.documents, ∀ item, readItem fs location = .ok item →
    ¬report.HasDuplicateAt location →
      report.warningsAt location =
        (item.judgement.partials.filter fun name => ¬findings.Registers fs name).map
          fun name => ⟨location.path, some item.definition.id, missingMessage name, none⟩
  /-- No other document is warned about anything. -/
  others : ∀ location ∈ findings.documents,
    (∃ flaw, readItem fs location = .error flaw) ∨ report.HasDuplicateAt location →
      report.warningsAt location = []

namespace Build

variable {fs : FileSystem} {findings : Findings} {location : Location}

/-- The names that partials have taken are those that the findings register. -/
theorem mem_partials_iff (fs : FileSystem) (findings : Findings) (name : String) :
    (initialDraft fs findings).templates.partials.contains name = true ↔
      findings.Registers fs name := by
  have htaken := TemplateSet.hasPartial_loadPartials fs findings.partials .empty name
  show (TemplateSet.empty.loadPartials fs findings.partials).2.hasPartial name = true ↔ _
  rw [htaken]
  simp [TemplateSet.hasPartial, TemplateSet.empty, Findings.Registers]

/-- A stem is found in the library of a generation as the partials have left it. -/
theorem find?_library {name : String} (hname : ∀ id, name ≠ itemTemplateName id) (number : Nat) :
    ((ofFindings fs findings).generation number).library.find? name =
      (TemplateSet.empty.loadPartials fs findings.partials).2.library.find? name := by
  rw [library_generation, draft_ofFindings]
  exact (Draft.templates_loadDocuments findings.documents (initialDraft fs findings)).2 name hname

theorem hasDuplicateAt_iff (hproper : findings.IsProper) (number : Nat) {verdict : DocumentVerdict}
    (hentry : (location, verdict) ∈ (ofFindings fs findings).documents) :
    ((ofFindings fs findings).report number).HasDuplicateAt location ↔
      ∃ id owner, verdict.outcome = .error (.duplicate id owner) := by
  have herrors : ((ofFindings fs findings).report number).errorsAt location =
      (verdict.error? location).toList := filter_errors hproper hentry
  rw [LoadReport.HasDuplicateAt, herrors]
  obtain ⟨missing, flaw | item⟩ := verdict
  · simp only [DocumentVerdict.error?, Option.toList_some, List.mem_singleton, exists_eq_left]
    rcases flaw with _ | _ | ⟨_ | _⟩ | _ | _ | _ <;>
      simp [DocumentFlaw.error, LoadError.make, LoadError.about]
  · simp [DocumentVerdict.error?]

/-- A document that defines an item is no duplicate if it is the first of all. -/
theorem not_hasDuplicateAt_of_first (hproper : findings.IsProper) (number : Nat)
    {others : List Location} (hdocuments : findings.documents = location :: others)
    {item : Item.Validated} (hread : readItem fs location = .ok item) :
    ¬((ofFindings fs findings).report number).HasDuplicateAt location := by
  have hentry : (location,
      ((initialDraft fs findings).loadDocument fs (registryOf fs findings) location).1) ∈
        (ofFindings fs findings).documents := by
    rw [documents_ofFindings, hdocuments]
    exact List.mem_cons_self
  rw [hasDuplicateAt_iff hproper number hentry]
  rintro ⟨id, owner, hduplicate⟩
  rcases (initialDraft fs findings).loadDocument_cases fs (registryOf fs findings) location with
    ⟨flaw, hflaw, -⟩ | ⟨again, taken, -, howner, -⟩ | ⟨again, flaw, -, -, -, hkind, hload⟩ |
    ⟨again, template, added, -, -, -, -, -, hload⟩
  · cases hflaw.symm.trans hread
  · -- No id has an owner as yet.
    cases howner
  · rw [hload] at hduplicate
    exact DocumentFlaw.ne_duplicate hkind id owner (Except.error.inj hduplicate)
  · rw [hload] at hduplicate
    cases hduplicate

/-- The name of an item's template is no stem. -/
theorem ne_itemTemplateName {stem : String} (hstem : '/' ∉ stem.toList) (id : String) :
    stem ≠ itemTemplateName id := by
  rintro rfl
  refine hstem ?_
  rw [itemTemplateName, String.toList_append]
  exact List.mem_append_left _ (by decide)

/-- The names of every build are resolved to the first files that can be used. -/
theorem partialsResolved (hproper : findings.IsProper) {root : Location}
    (hregistry : findings.RegistryApart root) (number : Nat) :
    PartialsResolved fs findings ((ofFindings fs findings).generation number)
      ((ofFindings fs findings).report number) where
  registered before location after template hsplit htemplate hfirst := by
    have hlocation : location ∈ findings.partials := hsplit ▸ by simp
    have hplace := hproper.proper location
      (List.mem_append_left _ (List.mem_append_right _ hlocation))
    obtain ⟨hlibrary, earlier, later, rfl, rfl, hentries, hearlier, hlater⟩ :=
      @TemplateSet.loadPartials_of_first fs location .empty before after template rfl htemplate
        hfirst
    rw [← hsplit] at hlibrary hentries
    have hpartials : (ofFindings fs findings).partials =
        earlier ++ (location, .registered) :: later := hentries
    have hown : (location, .registered) ∈ (ofFindings fs findings).partials := hpartials ▸ by simp
    have hname := itemTemplateName_ne_stem hplace.1 hplace.2
    refine ⟨(find?_library hname number).trans hlibrary, errorsAt_partial hproper number hown,
      warningsAt_partial hproper hregistry number hown, fun place hplace hstem => ?_,
      fun place hplace hstem => ?_⟩
    · -- A file before it cannot be used.
      obtain ⟨entry, hentry, rfl⟩ := List.mem_map.mp hplace
      obtain ⟨error, herror, hwarning, habout⟩ := hearlier entry hentry hstem
      have hmem : entry ∈ (ofFindings fs findings).partials :=
        hpartials ▸ List.mem_append_left _ hentry
      rw [errorsAt_partial hproper number hmem, warningsAt_partial hproper hregistry number hmem,
        herror, hwarning]
      exact ⟨⟨error, rfl, habout⟩, rfl⟩
    · -- A file after it is passed over, whether it could be used or not.
      obtain ⟨entry, hentry, rfl⟩ := List.mem_map.mp hplace
      have hmem : entry ∈ (ofFindings fs findings).partials :=
        hpartials ▸ List.mem_append_right _ (List.mem_cons_of_mem _ hentry)
      rw [errorsAt_partial hproper number hmem, warningsAt_partial hproper hregistry number hmem,
        hlater entry hentry hstem, ← hstem]
      exact ⟨rfl, rfl⟩
  unregistered stem hstem hnone := by
    obtain ⟨-, hlibrary, hentries⟩ := @TemplateSet.loadPartials_of_none fs .empty stem
      findings.partials rfl hnone
    refine ⟨(find?_library (ne_itemTemplateName hstem) number).trans hlibrary,
      fun location hlocation hsame => ?_⟩
    rw [← @map_fst_partials fs findings] at hlocation
    obtain ⟨entry, hentry, rfl⟩ := List.mem_map.mp hlocation
    obtain ⟨error, herror, hwarning, habout⟩ := hentries entry hentry hsame
    rw [errorsAt_partial hproper number hentry, warningsAt_partial hproper hregistry number hentry,
      herror, hwarning]
    exact ⟨⟨error, rfl, habout⟩, rfl⟩
  declared location hlocation item hread hduplicate := by
    rw [← @map_fst_documents fs findings] at hlocation
    obtain ⟨⟨_, verdict⟩, hentry, rfl⟩ := List.mem_map.mp hlocation
    rw [hasDuplicateAt_iff hproper number hentry] at hduplicate
    rw [warningsAt_document hproper hregistry number hentry]
    rcases Draft.tellsMissing_loadDocuments findings.documents rfl _ hentry with
      ⟨again, hagain, -, hmissing⟩ | ⟨⟨flaw, hflaw⟩ | hother, -⟩
    · obtain rfl : again = item := Except.ok.inj (hagain.symm.trans hread)
      -- The names that are taken when documents are loaded are those of the partials.
      have hnames : ∀ name, (!(initialDraft fs findings).templates.partials.contains name) =
          decide (¬findings.Registers fs name) := fun name => by
        rw [Bool.eq_iff_iff, Bool.not_eq_true', ← Bool.not_eq_true, mem_partials_iff,
          decide_eq_true_eq]
      rw [DocumentVerdict.warnings, hmissing, List.map_map]
      refine congrArg (List.map _) (List.filter_congr fun name _ => hnames name)
    · cases hflaw.symm.trans hread
    · exact absurd hother hduplicate
  others location hlocation hother := by
    rw [← @map_fst_documents fs findings] at hlocation
    obtain ⟨⟨_, verdict⟩, hentry, rfl⟩ := List.mem_map.mp hlocation
    rw [hasDuplicateAt_iff hproper number hentry] at hother
    rw [warningsAt_document hproper hregistry number hentry]
    rcases Draft.tellsMissing_loadDocuments findings.documents rfl _ hentry with
      ⟨item, hread, hnot, -⟩ | ⟨-, hmissing⟩
    · rcases hother with ⟨flaw, hflaw⟩ | ⟨id, owner, hduplicate⟩
      · cases hflaw.symm.trans hread
      · exact absurd hduplicate (hnot id owner)
    · rw [DocumentVerdict.warnings, hmissing, List.map_nil]

end Build

/-- In every generation that is published in the course of a run, the names of partials stand for
the first files that can be used, by the files as they were when the generation was built. -/
theorem Run.partials_resolved {files : FileSystem} {ttl : Nat} {options : CacheOptions}
    {hosted : Bool} {log : List Event} {system : System}
    (hrun : Run (.start files ttl options hosted) log system) (hwf : files.WellFormed)
    (hchanges : ∀ changed, .changed changed ∈ log → changed.WellFormed) {cycle : Cycle}
    (hcycle : cycle ∈ cycles log) :
    ∃ earlier later path between,
      log = earlier ++ .advanced cycle.call (.building cycle.number path) :: later ∧
      Run (.start files ttl options hosted) earlier between ∧
      (between.service.build between.files path).1 = .ok cycle.build ∧
      (cycle.build.findings.partials.Pairwise fun a b => a.le b = true) ∧
      PartialsResolved between.files cycle.build.findings cycle.generation cycle.report := by
  obtain ⟨earlier, later, path, between, rfl, hearlier, hnow, hholds, hbuild, hfindings, hproper⟩ :=
    hrun.properly_built hwf hchanges hcycle
  obtain ⟨root, -, hregistry⟩ := Service.exists_root_of_build hnow hholds hbuild
  have hresolved := @Build.partialsResolved between.files _ hproper root hregistry cycle.number
  rw [← hfindings] at hresolved
  exact ⟨earlier, later, path, between, rfl, hearlier, hbuild, hproper.partials_sorted, hresolved⟩

/-- Of three copies of a partial the first one cannot be compiled, the second one stands under the
name, and the third one is ignored. A document is warned about the one of its partials that is not
there. -/
theorem partials_resolved_of_copies :
    let text : String :=
      "id: x\ntemplate: t\nmetadata:\n  version: v\n  dependencies:\n    partials: [h, z]\n"
    let files : FileSystem := ⟨.directory true [("a.yaml", .file true text.toUTF8),
      ("partials", .directory true [("h.a", .file true "\x7b\x7b".toUTF8),
        ("h.b", .file true "hello".toUTF8), ("h.c", .file true "hi".toUTF8)])], .top⟩
    ∃ log system, Run (.start files 1000 ⟨4, none, none⟩ false) log system ∧
      ∃ cycle ∈ cycles log, (cycle.generation.library.find? "h").isSome ∧
        (cycle.report.errorsAt ⟨["partials", "h.a"]⟩).length = 1 ∧
        (cycle.report.warningsAt ⟨["partials", "h.c"]⟩).map LoadWarning.message =
          [copyMessage "h"] ∧
        (cycle.report.warningsAt ⟨["a.yaml"]⟩).map LoadWarning.message = [missingMessage "z"] := by
  intro text files
  have hwf : files.WellFormed := by
    refine ⟨.directory true (by decide) (by decide) ?_, Location.isProper_top⟩
    simp only [List.forall_mem_cons]
    refine ⟨.file true _, .directory true (by decide) (by decide) ?_, by simp⟩
    simp only [List.forall_mem_cons]
    exact ⟨.file true _, .file true _, .file true _, by simp⟩
  -- What a scan finds.
  have hlisting : files.listing .top = .ok [⟨"a.yaml", .file⟩, ⟨"partials", .directory⟩] :=
    FileSystem.listing_of_entries
      (FileSystem.readDirectory_path (FileSystem.canonicalize_path_top rfl) rfl)
      (by simp [FileSystem.entryOf, FileSystem.entryKind?, isHiddenName]) (by decide)
  have hpartials : files.canonicalize (Location.path ⟨["partials"]⟩) = .ok ⟨["partials"]⟩ :=
    FileSystem.canonicalize_path (by decide) (by simp) ⟨_, rfl, by simp⟩ (by decide)
  have hdown : files.listing ⟨["partials"]⟩ =
      .ok [⟨"h.a", .file⟩, ⟨"h.b", .file⟩, ⟨"h.c", .file⟩] :=
    FileSystem.listing_of_files (FileSystem.readDirectory_path hpartials rfl)
      (by simp [isHiddenName]) (by decide)
  have hfound : Scan.found files pathLimit .top [⟨"a.yaml", .file⟩, ⟨"partials", .directory⟩] =
      [.document ⟨["a.yaml"]⟩, .partialFile ⟨["partials", "h.a"]⟩,
        .partialFile ⟨["partials", "h.b"]⟩, .partialFile ⟨["partials", "h.c"]⟩] := by
    have hwalk : Id.run (Scan.walk (m := Id) files.listing pathLimit true ⟨["partials"]⟩) = _ :=
      Scan.run_walk_succ files 4094 _ _
    rw [hdown] at hwalk
    exact congrArg (fun found => Finding.ofFile false ⟨["a.yaml"]⟩ ++ (found ++ [])) hwalk
  obtain ⟨findings, hscan, hdocuments, hpartials⟩ : ∃ findings,
      Id.run (Scan.scan (m := Id) files.listing .top) = .ok findings ∧
        findings.documents = [⟨["a.yaml"]⟩] ∧
        findings.partials =
          [⟨["partials", "h.a"]⟩, ⟨["partials", "h.b"]⟩, ⟨["partials", "h.c"]⟩] := by
    refine ⟨_, Scan.run_scanTo_of_listing hlisting, ?_, ?_⟩
    · rw [hfound]
      exact List.mergeSort_singleton _
    · rw [hfound]
      exact List.mergeSort_of_pairwise (by decide)
  obtain ⟨log, system, hrun, hcycle, hkept⟩ :=
    Run.exists_load (plainBuild_path_top rfl hscan) 1000 ⟨4, none, none⟩ false
  obtain ⟨earlier, later, path, between, hlog, hearlier, -, -, hresolved⟩ :=
    hrun.partials_resolved hwf (fun changed hmem => absurd hmem (hkept changed)) hcycle
  have hfiles : between.files = files := hearlier.files_eq fun changed hmem =>
    hkept changed (hlog ▸ List.mem_append_left _ hmem)
  rw [hfiles] at hresolved
  -- What the first two copies come to.
  have hbroken : files.template? ⟨["partials", "h.a"]⟩ = none := by
    have hread : files.readText (Location.path ⟨["partials", "h.a"]⟩) = .ok "\x7b\x7b" :=
      FileSystem.readText_path (by decide) (by simp) (by decide) rfl
    rw [FileSystem.template?, hread, ← Option.isNone_iff_eq_none]
    decide +kernel
  obtain ⟨template, htemplate⟩ : ∃ template,
      files.template? ⟨["partials", "h.b"]⟩ = some template := by
    have hread : files.readText (Location.path ⟨["partials", "h.b"]⟩) = .ok "hello" :=
      FileSystem.readText_path (by decide) (by simp) (by decide) rfl
    rw [← Option.isSome_iff_exists, FileSystem.template?, hread]
    decide +kernel
  obtain ⟨hlibrary, -, -, hbefore, hafter⟩ := hresolved.registered [⟨["partials", "h.a"]⟩]
    ⟨["partials", "h.b"]⟩ [⟨["partials", "h.c"]⟩] template hpartials htemplate
    (List.forall_mem_singleton.mpr fun _ => hbroken)
  obtain ⟨⟨error, herror, -⟩, -⟩ := hbefore _ (List.mem_singleton_self _) (by decide)
  obtain ⟨-, hcopy⟩ := hafter _ (List.mem_singleton_self _) (by decide)
  -- What the document comes to.
  have hread : files.readText (Location.path ⟨["a.yaml"]⟩) = .ok text :=
    FileSystem.readText_path (by decide) (by simp) (by decide) rfl
  have hdeclares : (readItem files ⟨["a.yaml"]⟩).toOption.map (fun item =>
      item.judgement.partials) = some ["h", "z"] := by
    rw [readItem, hread]
    decide +kernel
  cases hitem : readItem files ⟨["a.yaml"]⟩ with
  | error flaw => simp [hitem, Except.toOption] at hdeclares
  | ok item =>
    have hnames : item.judgement.partials = ["h", "z"] := by
      simpa only [hitem, Except.toOption, Option.map_some, Option.some.injEq] using hdeclares
    have hmissing := hresolved.declared ⟨["a.yaml"]⟩
      (hdocuments ▸ List.mem_singleton_self _) item hitem
    -- It is the first of its id, and it names one partial that is there and one that is not.
    have hfirst := Build.not_hasDuplicateAt_of_first
      (Scan.isProper_of_scan hwf Location.isProper_top hscan) 1 hdocuments hitem
    have hregistered : (Build.ofFindings files findings).findings.Registers files "h" :=
      ⟨⟨["partials", "h.b"]⟩, hpartials ▸ by decide, by decide, Option.isSome_of_eq_some htemplate⟩
    have hunregistered : ¬(Build.ofFindings files findings).findings.Registers files "z" := by
      rintro ⟨location, hlocation, hstem, -⟩
      replace hlocation : location ∈ findings.partials := hlocation
      rw [hpartials] at hlocation
      revert hstem
      revert location
      decide
    rw [hnames] at hmissing
    refine ⟨log, system, hrun, _, hcycle, ?_, ?_, ?_, ?_⟩
    · exact Option.isSome_of_eq_some hlibrary
    · rw [herror]
      rfl
    · rw [hcopy]
      rfl
    · rw [hmissing hfirst]
      simp [hregistered, hunregistered]

end TemplateCatalog
