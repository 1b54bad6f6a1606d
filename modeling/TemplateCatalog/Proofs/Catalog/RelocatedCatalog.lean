import TemplateCatalog.Proofs.Catalog.RelocatedSources
import TemplateCatalog.Proofs.Catalog.SingleDocument

/-!
# Catalogs of content trees in other places

A catalog does not depend on where its content tree is. If the same tree without links stands below
two roots, whatever the roots are called, loads of both publish the same items in the same order and
report the same errors and warnings, but for the one root in place of the other. There is just one
condition, and it is the system's: what a load opens below the one root must not be too far down
below the other. The condition is about directories, partials, documents and the registry only.

The module introduces:

* `LoadReport.Moved`, `Generation.Moved`, `CatalogFault.Moved`, `Build.Moved`: reports, generations,
  faults and builds that are the same but for the root;
* `Service.LoadsAlike`: loads of the one and the other root come to the same.

Main statements:

* `Generation.moved_ofItems`: items that are the same but for the root make such generations.
* `FileSystem.Relocated.build`: builds of what is found below both roots are the same but for the
  root.
* `Service.load_relocated`: so are whole loads.
* `Service.load_too_deep`: a root that is far down turns away what another root lets pass.
-/

namespace TemplateCatalog

/-! ### Reports and generations -/

/-- The two reports have the same entries in the same order, but for the root. -/
structure LoadReport.Moved (root place : Location) (a b : LoadReport) : Prop where
  generation : a.generation = b.generation
  compiledCount : a.compiledCount = b.compiledCount
  errors : List.Forall₂ (LoadError.Moved root place) a.errors b.errors
  warnings : List.Forall₂ (LoadWarning.Moved root place) a.warnings b.warnings

/-- The two generations have the same items in the same order, but for the root, and the same
templates. -/
structure Generation.Moved (root place : Location) (a b : Generation) : Prop where
  number : a.number = b.number
  items : List.Forall₂ (CatalogItem.Moved root place) a.items b.items
  index : a.index = b.index
  library : a.library = b.library

/-- The same fault of loads of the one and the other root. -/
inductive CatalogFault.Moved (root place : Location) : CatalogFault → CatalogFault → Prop where
  /-- The root could not be read. -/
  | contentRoot (cause : IoError) :
    CatalogFault.Moved root place (.contentRoot root.path cause) (.contentRoot place.path cause)
  /-- The root is no directory. -/
  | notADirectory :
    CatalogFault.Moved root place (.notADirectory root.path) (.notADirectory place.path)

variable {fs other : FileSystem} {root place a b : Location}

/-! ### Builds -/

/-- The two builds are the same but for the root. -/
structure Build.Moved (root place : Location) (a b : Build) : Prop where
  draft : a.draft.Moved root place b.draft
  errors : List.Forall₂ (LoadError.Moved root place) a.errors b.errors
  warnings : List.Forall₂ (LoadWarning.Moved root place) a.warnings b.warnings

/-- Generations of the same items have them at the same places. -/
theorem Generation.moved_ofItems (number : Nat) (library : Template.Library)
    {items others : List CatalogItem}
    (hitems : List.Forall₂ (CatalogItem.Moved root place) items others) :
    (ofItems number library items).Moved root place (ofItems number library others) := by
  have hadd : ∀ {generation again : Generation}, generation.Moved root place again →
      ∀ {item other : CatalogItem}, item.Moved root place other →
        (generation.add item).Moved root place (again.add other) := by
    intro generation again hmoved item other hitem
    have hid : item.id = other.id := by rw [CatalogItem.id, CatalogItem.id, hitem.definition]
    unfold add
    rw [hmoved.index, hid]
    split
    · exact hmoved
    · exact
        { number := hmoved.number
          items := List.rel_append hmoved.items (.cons hitem .nil)
          index := by rw [hmoved.items.length_eq]
          library := hmoved.library }
  exact List.rel_foldl (@hadd) ⟨rfl, .nil, rfl, rfl⟩ hitems

theorem Build.Moved.generation {build again : Build} (hmoved : build.Moved root place again)
    (number : Nat) :
    (build.generation number).Moved root place (again.generation number) := by
  rw [Build.generation, Build.generation, hmoved.draft.templates]
  exact Generation.moved_ofItems number _ hmoved.draft.items

theorem Build.Moved.report {build again : Build} (hmoved : build.Moved root place again)
    (number : Nat) : (build.report number).Moved root place (again.report number) where
  generation := rfl
  compiledCount := (hmoved.generation number).items.length_eq
  errors := hmoved.errors
  warnings := hmoved.warnings

namespace FileSystem.Relocated

variable {tree : Tree} {findings : Findings}

/-- Places that were found below both roots are seen alike. -/
theorem seenAlike_map (hrelocated : fs.Relocated other root place tree)
    (hopened : findings.OpenedIn tree) {locations : List Location}
    (hfound : ∀ location ∈ locations,
      location ∈ findings.registry.toList ++ findings.locations) :
    List.Forall₂ (SeenAlike fs other root place) (locations.map root.under)
      (locations.map place.under) := by
  rw [List.forall₂_map_left_iff, List.forall₂_map_right_iff, List.forall₂_same]
  exact fun location hlocation =>
    hrelocated.seenAlike (hopened location (hfound location hlocation))

/-- The registries below both roots are the same, and there is a warning about the one just if there
is a warning about the other. -/
theorem registry (hrelocated : fs.Relocated other root place tree)
    (hopened : findings.OpenedIn tree) :
    Build.registryOf fs (findings.under root) = Build.registryOf other (findings.under place) ∧
      List.Forall₂ (LoadWarning.Moved root place)
        (Build.ofFindings fs (findings.under root)).registryWarning?.toList
        (Build.ofFindings other (findings.under place)).registryWarning?.toList := by
  unfold Build.registryOf Build.registryWarning? Build.ofFindings Findings.under
  cases hregistry : findings.registry with
  | none => exact ⟨rfl, .nil⟩
  | some location =>
    have hseen := hrelocated.seenAlike
      (hopened location (List.mem_append_left _ (hregistry ▸ Option.mem_toList.mpr rfl)))
    have hloaded := hseen.registry
    simp only [Option.map_some]
    revert hloaded
    generalize Registry.load fs (root.under location) = loaded,
      Registry.load other (place.under location) = again
    rintro (registry | ⟨hmessage, htext⟩)
    · exact ⟨rfl, .nil⟩
    · exact ⟨rfl, .cons ⟨hseen.moved.path, rfl, hmessage.prepend _, htext⟩ .nil⟩

/-- Builds of what was found below both roots are the same but for the root. -/
theorem build (hrelocated : fs.Relocated other root place tree) (hopened : findings.OpenedIn tree) :
    (Build.ofFindings fs (findings.under root)).Moved root place
      (Build.ofFindings other (findings.under place)) := by
  -- Each step sees the same below both roots: first the registry, then the partials, which leave the
  -- same templates, and then the documents.
  obtain ⟨hregistry, hregistryWarning⟩ := hrelocated.registry hopened
  obtain ⟨htemplates, hpartials⟩ := TemplateSet.seenAlike_loadPartials
    (hrelocated.seenAlike_map hopened fun location hlocation =>
      List.mem_append_right _ (List.mem_append_left _ (List.mem_append_right _ hlocation)))
    .empty
  obtain ⟨hdraft, hdocuments⟩ := @Draft.moved_loadDocuments fs other root place
    (Build.initialDraft fs (findings.under root)) (Build.initialDraft other (findings.under place))
    (Build.registryOf fs (findings.under root)) _ _
    (hrelocated.seenAlike_map hopened fun location hlocation =>
      List.mem_append_right _ (List.mem_append_right _ hlocation))
    ⟨htemplates, .nil⟩
  have hfailures : List.Forall₂ (LoadError.Moved root place)
      ((findings.under root).failures.map Build.scanError)
      ((findings.under place).failures.map Build.scanError) := by
    rw [Findings.under, Findings.under, List.map_map, List.map_map, List.forall₂_map_left_iff,
      List.forall₂_map_right_iff, List.forall₂_same]
    intro failure hfailure
    have hmem : failure.1 ∈ findings.locations :=
      List.mem_append_left _ (List.mem_append_left _ (List.mem_map_of_mem hfailure))
    exact (hrelocated.seenAlike (hopened _ (List.mem_append_right _ hmem))).moved_make _ _ (.refl _)
  have hpartialErrors : List.Forall₂ (LoadError.Moved root place)
      (Build.ofFindings fs (findings.under root)).partialErrors
      (Build.ofFindings other (findings.under place)).partialErrors :=
    List.rel_filterMap (fun _ _ hentry => hentry.1.partialError hentry.2) hpartials
  have hpartialWarnings :=
    List.rel_filterMap (P := LoadWarning.Moved root place)
      (fun _ _ hentry => hentry.1.partialWarning hentry.2) hpartials
  exact
    { draft := by
        rw [Build.draft_ofFindings, Build.draft_ofFindings, ← hregistry]
        exact hdraft
      errors := List.rel_append (List.rel_append hfailures hpartialErrors) <| by
        rw [Build.documentErrors, Build.documentErrors, Build.documents_ofFindings,
          Build.documents_ofFindings, ← hregistry]
        exact List.rel_filterMap (fun _ _ hentry => hentry.2.error? hentry.1) hdocuments
      warnings := List.rel_append (List.rel_append hregistryWarning hpartialWarnings) <| by
        rw [Build.documents_ofFindings, Build.documents_ofFindings, ← hregistry]
        exact List.rel_flatMap hdocuments fun _ _ hentry => hentry.2.warnings hentry.1 }

end FileSystem.Relocated

/-! ### Loads -/

/-- Plain scans of both roots fail alike, or they find the same below them. -/
theorem FileSystem.Relocated.plainScan {tree : Tree}
    (hrelocated : fs.Relocated other root place tree) :
    (∃ fault others, TemplateCatalog.plainScan fs root = .error fault ∧
      TemplateCatalog.plainScan other place = .error others ∧ fault.Moved root place others) ∨
    ∃ findings : Findings, findings.OpenedIn tree ∧
      TemplateCatalog.plainScan fs root = .ok (findings.under root) ∧
      TemplateCatalog.plainScan other place = .ok (findings.under place) := by
  -- What the root is depends on the tree alone, and so does whether it can be listed.
  have hstat := hrelocated.stat_eq .root
  rw [Location.below_nil, Location.below_nil] at hstat
  unfold TemplateCatalog.plainScan
  rw [hstat]
  cases other.stat place.path with
  | error cause => exact .inl ⟨_, _, rfl, rfl, .contentRoot cause⟩
  | ok node =>
    dsimp only
    split
    · rcases hrelocated.scan with ⟨cause, hcause, hothers⟩ | ⟨findings, hopened, hfound, hothers⟩
      · exact .inl ⟨_, _, by rw [hcause]; rfl, by rw [hothers]; rfl, .contentRoot cause⟩
      · exact .inr ⟨findings, hopened, by rw [hfound]; rfl, by rw [hothers]; rfl⟩
    · exact .inl ⟨_, _, rfl, rfl, .notADirectory⟩

namespace Service

/-- Loads of the one and the other root come to the same but for the root. -/
inductive LoadsAlike (root place : Location)
    (first second : Except CatalogFault LoadReport × Service) : Prop where
  /-- Both loads have published what is the same but for the root. -/
  | published {report others : LoadReport} (answer : first.1 = .ok report)
    (again : second.1 = .ok others) (reports : report.Moved root place others)
    (generations : first.2.published.Moved root place second.2.published)
  /-- Both loads have failed for the same reason, and nothing is published. -/
  | failed {fault others : CatalogFault} (answer : first.1 = .error fault)
    (again : second.1 = .error others) (faults : fault.Moved root place others)
    (nothing : first.2.published = .empty ∧ second.2.published = .empty)

/-- A root with nothing but an empty directory in it is loaded without errors just if the path of
that directory is not too long. -/
theorem exists_report_of_empty_directory {fs : FileSystem} {root : Location} {name : String}
    (hcarries : fs.Carries root (Tree.empty.nest [name])) (hname : IsEntryName name)
    (hvisible : isHiddenName name = false) (hreach : root.IsReachable) (ttl : Nat)
    (options : CacheOptions) (hosted : Bool) :
    ∃ report, ((start ttl options hosted).load fs root.path).1 = .ok report ∧
      (report.errors = [] ↔ (root.below [name]).IsReachable) := by
  have hwf : (Tree.empty.nest [name]).WellFormed :=
    Tree.wellFormed_empty.nest (List.forall_mem_singleton.mpr hname)
  have hroot := hcarries.canonicalize (by simp [Tree.nest]) hreach
  have hlisting : fs.listing root = .ok [⟨name, .directory⟩] := by
    have hlisted := FileSystem.Carries.listing_eq hcarries (by simp [Tree.nest, Tree.empty])
    rw [if_pos hreach] at hlisted
    simpa [FileSystem.plainEntry?, hvisible, Tree.nest, Tree.empty] using hlisted
  have hdown := FileSystem.Carries.listing_eq
    (hcarries.below hwf (Tree.empty.at?_nest [name])) (by simp)
  have hanswer := (load_start_comesTo fs root.path ttl options hosted).answer
  rw [plainBuild_of_listing hroot hlisting] at hanswer
  refine ⟨_, hanswer, ?_⟩
  -- The walk goes down into the directory, which has one level less left to it than the root.
  have hfound : Scan.found fs pathLimit root [⟨name, .directory⟩] = _ :=
    (List.append_nil _).trans
      (Scan.run_walk_succ fs 4094 (false || name == partialsName) (root.below [name]))
  rw [hdown] at hfound
  by_cases hbelow : (root.below [name]).IsReachable
  · rw [if_pos hbelow, List.filterMap_nil, List.mergeSort_nil] at hfound
    have hnothing : Scan.found fs pathLimit root [⟨name, .directory⟩] = [] := hfound
    have hsort : Location.sort [] = [] := List.mergeSort_nil
    rw [hnothing]
    refine iff_of_true ?_ hbelow
    simp only [Build.report, Build.errors, Build.partialErrors, Build.documentErrors,
      Build.ofFindings, Scan.collect, List.filterMap_nil, hsort, TemplateSet.loadPartials,
      Draft.loadDocuments, List.map_nil, List.append_nil]
  · rw [if_neg hbelow] at hfound
    rw [hfound]
    exact iff_of_false (List.cons_ne_nil _ _) hbelow

/-- A catalog does not depend on where its content tree is, as long as the system lets the same of
the paths pass that a load opens. If the same tree without links stands below two roots, in one file
system or in two, then new services load the same items in the same order, with the same
definitions, profiles and schemas, and report the same errors and warnings in the same order, but
for the one root in place of the other in sources, paths and messages. -/
theorem load_relocated {files other : FileSystem} (hwf : files.WellFormed)
    (hotherwf : other.WellFormed) {path again : Path} {root place : Location}
    (hroot : files.canonicalize path = .ok root) (hplace : other.canonicalize again = .ok place)
    {tree : Tree} (hhere : files.node? root = some tree) (hthere : other.node? place = some tree)
    (hlinks : tree.LinkFree)
    (hreach : ∀ names, tree.Opens names →
      ((root.below names).IsReachable ↔ (place.below names).IsReachable))
    (ttl anew : Nat) (options others : CacheOptions) (hosted elsewhere : Bool) :
    LoadsAlike root place ((start ttl options hosted).load files path)
      ((start anew others elsewhere).load other again) := by
  have hrelocated : files.Relocated other root place tree :=
    { here := ⟨hhere, hwf.isProper_of_canonicalize hroot,
        FileSystem.exists_top_of_canonicalize hroot⟩
      there := ⟨hthere, hotherwf.isProper_of_canonicalize hplace,
        FileSystem.exists_top_of_canonicalize hplace⟩
      wellFormed := hwf.of_node? hhere
      links := hlinks
      reach := hreach }
  -- New services remember nothing, so their loads come to the plain builds of both roots.
  have hfirst := load_start_comesTo files path ttl options hosted
  have hsecond := load_start_comesTo other again anew others elsewhere
  simp only [plainBuild, resolve_eq_ok.mpr hroot] at hfirst
  simp only [plainBuild, resolve_eq_ok.mpr hplace] at hsecond
  rcases hrelocated.plainScan with ⟨fault, faults, hfault, hfaults, hmoved⟩ |
    ⟨findings, hopened, hfound, hagain⟩
  · rw [hfault] at hfirst
    rw [hfaults] at hsecond
    exact .failed hfirst.answer hsecond.answer hmoved ⟨hfirst.published, hsecond.published⟩
  · rw [hfound] at hfirst
    rw [hagain] at hsecond
    have hbuild := hrelocated.build hopened
    refine .published hfirst.answer hsecond.answer (hbuild.report 1) ?_
    rw [hfirst.published, hsecond.published]
    exact hbuild.generation 1

/-- A document that compiles is published and one that may not be read has an error, whether their
tree stands below a directory of documents or below a hidden directory and one of partials. -/
theorem load_relocated_of_hidden :
    let text : String := "id: x\ntemplate: hello"
    let tree : Tree := .directory true
      [("a.yaml", .file true text.toUTF8), ("b.yaml", .file false "id: y".toUTF8)]
    let root : Location := ⟨["docs"]⟩
    let place : Location := ⟨[".hidden", "partials"]⟩
    let new := start 1000 ⟨4, none, none⟩ false
    ∃ report again, (new.load (.nested root tree) root.path).1 = .ok report ∧
      (new.load (.nested place tree) place.path).1 = .ok again ∧
      report.Moved root place again ∧ report.compiledCount = 1 ∧ report.errors.length = 1 := by
  intro text tree root place new
  have htreewf : tree.WellFormed := by
    refine .directory true (by decide) (by decide) ?_
    simp only [List.forall_mem_cons]
    exact ⟨.file true _, .file false _, by simp⟩
  have hfiles : ∀ child ∈ [("a.yaml", Tree.file true text.toUTF8),
      ("b.yaml", .file false "id: y".toUTF8)],
      ∃ readable bytes, child.2 = .file readable bytes := by
    simp
  have hlinks : tree.LinkFree := by
    refine Tree.linkFree_directory true fun child hchild => ?_
    obtain ⟨readable, bytes, hfile⟩ := hfiles child hchild
    exact hfile ▸ Tree.linkFree_file readable bytes
  have hroot : (FileSystem.nested root tree).Carries root tree :=
    FileSystem.carries_nested (by decide) (by decide) tree
  have hplace : (FileSystem.nested place tree).Carries place tree :=
    FileSystem.carries_nested (by decide) (by decide) tree
  have hresolved := hroot.canonicalize (by simp [tree]) (by decide)
  -- All paths in the tree are short below either root.
  have hreach : ∀ names, tree.Opens names →
      ((root.below names).IsReachable ↔ (place.below names).IsReachable) := by
    intro names hopens
    obtain ⟨node, hnode⟩ := hopens.exists_node htreewf
    rcases Tree.names_of_at?_of_files hfiles hnode with rfl | ⟨child, hchild, rfl⟩
    · decide
    · have hnames : child.1 = "a.yaml" ∨ child.1 = "b.yaml" := by
        simp only [List.mem_cons, List.not_mem_nil, or_false] at hchild
        exact hchild.imp (congrArg Prod.fst) (congrArg Prod.fst)
      rcases hnames with hname | hname <;> rw [hname] <;> decide
  have halike := load_relocated (FileSystem.wellFormed_nested (by decide) htreewf)
    (FileSystem.wellFormed_nested (by decide) htreewf) hresolved
    (hplace.canonicalize (by simp [tree]) (by decide)) hroot.stands hplace.stands hlinks hreach
    1000 1000 ⟨4, none, none⟩ ⟨4, none, none⟩ false false
  -- What the first load comes to.
  have hread := FileSystem.readDirectory_path hresolved hroot.stands
  have hlisting : (FileSystem.nested root tree).listing root =
      .ok [⟨"a.yaml", .file⟩, ⟨"b.yaml", .file⟩] :=
    FileSystem.listing_of_files hread (by simp [isHiddenName]) (by decide)
  obtain ⟨findings, hscan, hdocuments, hpartials, hfailures⟩ : ∃ findings,
      Id.run (Scan.scan (m := Id) (FileSystem.nested root tree).listing root) = .ok findings ∧
        findings.documents = [⟨["docs", "a.yaml"]⟩, ⟨["docs", "b.yaml"]⟩] ∧
        findings.partials = [] ∧ findings.failures = [] := by
    have hsorted : Location.sort [⟨["docs", "a.yaml"]⟩, ⟨["docs", "b.yaml"]⟩] =
        [⟨["docs", "a.yaml"]⟩, ⟨["docs", "b.yaml"]⟩] := List.mergeSort_of_pairwise (by decide)
    have hfound : Scan.found (.nested root tree) pathLimit root
        [⟨"a.yaml", .file⟩, ⟨"b.yaml", .file⟩] =
          [.document ⟨["docs", "a.yaml"]⟩, .document ⟨["docs", "b.yaml"]⟩] :=
      congrArg (fun first => Finding.ofFile false ⟨["docs", "a.yaml"]⟩ ++ first)
        (List.append_nil (Finding.ofFile false ⟨["docs", "b.yaml"]⟩))
    refine ⟨_, Scan.run_scanTo_of_listing hlisting, ?_⟩
    rw [hfound]
    exact ⟨hsorted, List.mergeSort_nil, rfl⟩
  have hfirst := load_start_comesTo (.nested root tree) root.path 1000 ⟨4, none, none⟩ false
  rw [plainBuild_of_scan hresolved hread hscan] at hfirst
  have hunreadable : readItem (.nested root tree) ⟨["docs", "b.yaml"]⟩ =
      .error (.unreadable .permissionDenied) := by
    have hfile : (FileSystem.nested root tree).Carries ⟨["docs", "b.yaml"]⟩ (.file false _) :=
      @FileSystem.Carries.below _ root tree _ ["b.yaml"] hroot htreewf rfl
    simp only [readItem, FileSystem.readText, hfile.stat_eq (by simp), bind, Except.bind]
    rw [if_pos (by decide)]
  have hdefines : (readItem (.nested root tree) ⟨["docs", "a.yaml"]⟩).toOption.map
      (·.compiled?.isSome) = some true := by
    have htext : (FileSystem.nested root tree).readText (Location.path ⟨["docs", "a.yaml"]⟩) =
        .ok text := FileSystem.readText_path (by decide) (by simp) (by decide) rfl
    rw [readItem, htext]
    decide +kernel
  cases hitem : readItem (.nested root tree) ⟨["docs", "a.yaml"]⟩ with
  | error flaw => simp [hitem, Except.toOption] at hdefines
  | ok item =>
    simp only [hitem, Except.toOption, Option.map_some, Option.some.injEq,
      Option.isSome_iff_exists] at hdefines
    obtain ⟨template, hcompiled⟩ := hdefines
    cases halike with
    | failed answer => cases answer.symm.trans hfirst.answer
    | @published report others answer again reports _ =>
      obtain rfl := Except.ok.inj (answer.symm.trans hfirst.answer)
      obtain ⟨hcompiled, herrors⟩ :=
        Build.counts_of_flawed hdocuments hitem hcompiled hunreadable 1
      have hothers : (Build.ofFindings (.nested root tree) findings).errors =
          (Build.ofFindings (.nested root tree) findings).documentErrors := by
        simp [Build.errors, Build.partialErrors, Build.ofFindings, hpartials, hfailures,
          TemplateSet.loadPartials]
      exact ⟨_, others, answer, again, reports, hcompiled,
        (congrArg List.length hothers).trans herrors⟩

/-- Without that condition it may depend on where the tree is. A directory is listed below one root,
and turned away below another root, whose path is as long as a path may be. -/
theorem load_too_deep :
    let tree := Tree.empty.nest ["a"]
    let root : Location := ⟨List.replicate 2047 "a"⟩
    let place : Location := ⟨["docs"]⟩
    let files := FileSystem.nested root tree
    let other := FileSystem.nested place tree
    let new := start 1000 ⟨4, none, none⟩ false
    files.WellFormed ∧ other.WellFormed ∧ tree.LinkFree ∧
      files.canonicalize root.path = .ok root ∧ files.node? root = some tree ∧
      other.canonicalize place.path = .ok place ∧ other.node? place = some tree ∧
      ∃ report again, (new.load files root.path).1 = .ok report ∧
        (new.load other place.path).1 = .ok again ∧ report.errors ≠ [] ∧ again.errors = [] := by
  intro tree root place files other new
  have hname : IsEntryName "a" := by decide
  have hvisible : isHiddenName "a" = false := by decide
  have hroot : root.IsProper := fun part hpart => List.eq_of_mem_replicate hpart ▸ hname
  have hplace : place.IsProper := by decide
  have htreewf : tree.WellFormed :=
    Tree.wellFormed_empty.nest (List.forall_mem_singleton.mpr hname)
  have hne : root.names ≠ [] := mt (List.replicate_eq_nil_iff "a").mp (by decide)
  have hhere : files.Carries root tree := FileSystem.carries_nested hroot hne tree
  have hthere : other.Carries place tree := FileSystem.carries_nested hplace (by decide) tree
  -- The root has 4094 bytes, and a slash and a name are two more.
  have hreach : root.IsReachable ∧ ¬(root.below ["a"]).IsReachable := by
    have hsize : (root.names.map fun name => name.utf8ByteSize + 1).sum = 4094 := by
      rw [List.map_replicate, List.sum_replicate_nat]
      decide
    have hbelow : (root.below ["a"]).names ≠ [] := List.append_ne_nil_of_left_ne_nil hne ["a"]
    rw [Location.IsReachable, Location.IsReachable, Location.utf8ByteSize_text hne,
      Location.utf8ByteSize_text hbelow, Location.below, List.map_append, List.sum_append, hsize]
    decide
  have hshort : place.IsReachable ∧ (place.below ["a"]).IsReachable := by decide
  obtain ⟨report, hreport, herrors⟩ :=
    exists_report_of_empty_directory hhere hname hvisible hreach.1 1000 ⟨4, none, none⟩ false
  obtain ⟨again, hagain, hnothing⟩ :=
    exists_report_of_empty_directory hthere hname hvisible hshort.1 1000 ⟨4, none, none⟩ false
  exact ⟨FileSystem.wellFormed_nested hroot htreewf, FileSystem.wellFormed_nested hplace htreewf,
    Tree.linkFree_empty.nest ["a"], hhere.canonicalize (by simp [tree, Tree.nest]) hreach.1,
    hhere.stands, hthere.canonicalize (by simp [tree, Tree.nest]) hshort.1, hthere.stands, report,
    again, hreport, hagain, mt herrors.mp hreach.2, hnothing.mpr hshort.2⟩

end Service

end TemplateCatalog
