import TemplateCatalog.Proofs.Catalog.Drafts
import TemplateCatalog.Proofs.Catalog.Protocol

/-!
# Catalogs of a single document

The catalogs in which the general statements about what is published are tried out: one document in
the content root, and nothing else that counts.

The module introduces:

* `Findings.ofDocument`: what is found in a root with a document and nothing else;
* `singleDocument`: files that are nothing but a document.

Main statements:

* `Scan.run_scan_of_document`: a root with a document and nothing else is scanned to that.
* `Build.exists_item_of_first`, `Build.exists_item_of_single`: a document that compiles makes an
  item.
* `Build.counts_of_flawed`: a document beside it that cannot be used makes an error.
* `Service.build_singleDocument`: a service that remembers nothing builds the catalog of the
  document.
-/

namespace TemplateCatalog

/-- The document `a.yaml` in a root, and nothing else. -/
def Findings.ofDocument (root : Location) : Findings :=
  ⟨[root.child "a.yaml"], [], none, []⟩

namespace Scan

variable {root : Location}

theorem ofFile_document (root : Location) :
    Finding.ofFile false (root.child "a.yaml") = [.document (root.child "a.yaml")] := by
  have hname : (root.child "a.yaml").name = "a.yaml" := by simp [Location.name, Location.child]
  have hformat : (root.child "a.yaml").format?.isSome = true := by
    rw [Location.format?, Location.extension?, hname]
    decide
  simp [Finding.ofFile, hformat]

theorem collect_document (root : Location) :
    collect (registryIn root [⟨"a.yaml", .file⟩]) [.document (root.child "a.yaml")] =
      .ofDocument root := by
  have hdocuments : Location.sort [root.child "a.yaml"] = [root.child "a.yaml"] :=
    List.mergeSort_singleton _
  have hpartials : Location.sort [] = [] := List.mergeSort_nil
  have hregistry : registryIn root [⟨"a.yaml", .file⟩] = none := rfl
  simp only [collect, List.filterMap_cons, List.filterMap_nil, Finding.document?,
    Finding.partial?, Finding.unlistable?, hdocuments, hpartials, hregistry, Findings.ofDocument]

/-- A root with a document and nothing else is scanned to that, whatever is remembered on the
way. -/
theorem scan_fst_of_document {σ : Type} {list : Location → StateM σ (Except IoError Listing)}
    {s : σ} (hlisting : (list root s).1 = .ok [⟨"a.yaml", .file⟩]) :
    (scan list root s).1 = .ok (.ofDocument root) := by
  rcases hresult : list root s with ⟨result, after⟩
  rw [hresult] at hlisting
  obtain rfl : result = _ := hlisting
  -- The document is no registry, so the walk comes across it.
  have hentries : List.filter (fun entry => !isRegistry entry) [⟨"a.yaml", .file⟩] =
      [⟨"a.yaml", .file⟩] := by
    decide
  have hwalk : (scan list root s).1 = .ok (collect (registryIn root [⟨"a.yaml", .file⟩])
      (Finding.ofFile false (root.child "a.yaml") ++ [])) := by
    simp only [scan, bind, StateT.bind, hresult, hentries]
    rfl
  rw [hwalk, ofFile_document, List.append_nil, collect_document]

theorem run_scan_of_document {fs : FileSystem}
    (hlisting : fs.listing root = .ok [⟨"a.yaml", .file⟩]) :
    Id.run (scan (m := Id) fs.listing root) = .ok (.ofDocument root) := by
  have hscan := @scan_fst_of_document root Unit (fun directory => pure (fs.listing directory)) ()
    hlisting
  rw [scan_pure] at hscan
  exact hscan

end Scan

namespace Build

variable {fs : FileSystem} {findings : Findings} {location : Location} {others : List Location}

/-- If the first document compiles, then it makes the first item, and there are at most as many
other items as there are other documents. What the document is known to define is what its item
is. -/
theorem exists_item_of_first (hdocuments : findings.documents = location :: others)
    (defines : Item.Definition → Bool)
    (hdefines : ((readItem fs location).toOption.any fun item =>
      item.compiled?.isSome && defines item.definition) = true) (number : Nat) :
    ∃ added later, ((ofFindings fs findings).generation number).items = added :: later ∧
      later.length ≤ others.length ∧ defines added.definition = true := by
  cases hread : readItem fs location with
  | error flaw => simp [hread, Except.toOption] at hdefines
  | ok item =>
    simp only [hread, Except.toOption, Option.any_some, Bool.and_eq_true,
      Option.isSome_iff_exists] at hdefines
    obtain ⟨⟨template, hcompiled⟩, hdefines⟩ := hdefines
    obtain ⟨missing, added, hadd, hdefinition, -⟩ := @Draft.addItem_of_compiled
      (registryOf fs findings) location item (initialDraft fs findings) template hcompiled
    have howner : (initialDraft fs findings).owner? item.definition.id = none := rfl
    rw [items_generation, draft_ofFindings, hdocuments]
    simp only [Draft.loadDocuments, Draft.loadDocument, hread, howner, hadd]
    refine ⟨added, _, Draft.items_loadDocuments others _, ?_, hdefinition ▸ hdefines⟩
    -- Each of the other documents has a verdict, and a verdict names one item at most.
    refine Nat.le_trans (List.length_filterMap_le _ _) (Nat.le_of_eq ?_)
    rw [← List.length_map Prod.fst, Draft.map_fst_loadDocuments]

/-- A single document that compiles makes the only item. -/
theorem exists_item_of_single (hdocuments : findings.documents = [location])
    (defines : Item.Definition → Bool)
    (hdefines : ((readItem fs location).toOption.any fun item =>
      item.compiled?.isSome && defines item.definition) = true) (number : Nat) :
    ∃ added, ((ofFindings fs findings).generation number).items = [added] ∧
      defines added.definition = true := by
  obtain ⟨added, later, hitems, hlater, hdefined⟩ :=
    exists_item_of_first hdocuments defines hdefines number
  have hnone : later = [] := List.length_eq_zero_iff.mp (Nat.le_zero.mp hlater)
  exact ⟨added, by rw [hitems, hnone], hdefined⟩

/-- A document that compiles and one that cannot be used make one item and one error. -/
theorem counts_of_flawed {other : Location} {item : Item.Validated} {template : Template.Compiled}
    {flaw : DocumentFlaw} (hdocuments : findings.documents = [location, other])
    (hread : readItem fs location = .ok item) (hcompiled : item.compiled? = some template)
    (hflawed : readItem fs other = .error flaw) (number : Nat) :
    ((ofFindings fs findings).report number).compiledCount = 1 ∧
      (ofFindings fs findings).documentErrors.length = 1 := by
  obtain ⟨missing, added, hadd, -, -⟩ := @Draft.addItem_of_compiled
    (registryOf fs findings) location item (initialDraft fs findings) template hcompiled
  have howner : (initialDraft fs findings).owner? item.definition.id = none := rfl
  constructor
  · show ((ofFindings fs findings).generation number).items.length = 1
    rw [items_generation, draft_ofFindings, hdocuments]
    simp only [Draft.loadDocuments, Draft.loadDocument, hread, howner, hadd, hflawed]
    rfl
  · rw [documentErrors, documents_ofFindings, hdocuments]
    simp only [Draft.loadDocuments, Draft.loadDocument, hread, howner, hadd, hflawed]
    rfl

end Build

/-! ### Files that are nothing but a document -/

/-- Files that are nothing but a document with the given text. -/
def singleDocument (text : String) : FileSystem :=
  ⟨.directory true [("a.yaml", .file true text.toUTF8)], .top⟩

theorem wellFormed_singleDocument (text : String) : (singleDocument text).WellFormed := by
  have hname : ∀ child ∈ [("a.yaml", Tree.file true text.toUTF8)], IsEntryName child.1 := by
    rw [List.forall_mem_singleton]
    show IsEntryName "a.yaml"
    decide
  refine ⟨.directory true (List.nodup_singleton "a.yaml") hname ?_, Location.isProper_top⟩
  rw [List.forall_mem_singleton]
  exact .file true _

/-- A directory stands at the top of the files. -/
theorem top_singleDocument (text : String) :
    (singleDocument text).node? .top =
      some (.directory true [("a.yaml", .file true text.toUTF8)]) :=
  rfl

theorem readText_singleDocument (text : String) :
    (singleDocument text).readText (Location.path ⟨["a.yaml"]⟩) = .ok text :=
  FileSystem.readText_path (by decide) (by simp) (by decide) rfl

theorem listing_singleDocument (text : String) :
    (singleDocument text).listing .top = .ok [⟨"a.yaml", .file⟩] :=
  FileSystem.listing_top_of_files (top_singleDocument text) (by simp [isHiddenName]) (by simp)

/-- A service that does not remember the listing builds the catalog of the document. -/
theorem Service.build_singleDocument (text : String) {service : Service}
    (hmiss : (Listings.access (.get .top) service.listings).1 = .found none) :
    (service.build (singleDocument text) Location.top.path).1 =
      .ok (.ofFindings (singleDocument text) (.ofDocument .top)) := by
  have hcanonical := FileSystem.canonicalize_path_top (top_singleDocument text)
  have hstat := FileSystem.stat_of_readDirectory
    (FileSystem.readDirectory_path hcanonical (top_singleDocument text))
  have hlisting := @Listings.list_fst_of_miss (singleDocument text) service.listingTtl _ _ hmiss
  rw [listing_singleDocument] at hlisting
  have hscan := Scan.scan_fst_of_document hlisting
  rcases hresult : Scan.scan (Listings.list (singleDocument text) service.listingTtl) .top
    service.listings with ⟨result, after⟩
  rw [hresult] at hscan
  obtain rfl : result = _ := hscan
  simp only [build, resolve_eq_ok.mpr hcanonical, scan, hstat, Tree.isDirectory, ↓reduceIte, bind,
    StateT.bind, hresult]
  rfl

end TemplateCatalog
