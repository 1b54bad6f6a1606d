import TemplateCatalog.Proofs.Catalog.Accounts
import TemplateCatalog.Proofs.Catalog.ContentTree
import TemplateCatalog.Proofs.Tree.Rearranged

/-!
# Discovery

What a scan finds, told without a walk: the files of the content tree, each of them a document, a
partial, the registry or nothing by the names on its way and its own name. What a scan finds is
settled by the file system alone; nothing is left of the order in which the entries of a directory
come, and no walk runs out of levels.

The module introduces:

* `Scan.FoundIn`: what there is to find in a directory itself;
* `FindsContent`: the findings are the content tree, sorted.

Main statements:

* `Scan.mem_walk_iff`, `Scan.mem_found_iff`: what a walk and a scan come across.
* `Scan.run_scanTo_eq`: a scan finds the same with more levels.
* `Service.scan_findsContent`: a scan that remembers nothing finds the content tree.
-/

namespace TemplateCatalog

/-! ### Walks -/

namespace Scan

variable {fs : FileSystem} {finding : Finding}

/-- What there is to find in a directory itself: that it cannot be listed, or its files. -/
def FoundIn (fs : FileSystem) (inPartials : Bool) (directory : Location) (finding : Finding) :
    Prop :=
  (∃ cause, fs.readDirectory directory.path = .error cause ∧
    finding = .unlistable directory cause) ∨
  ∃ file, IsVisibleName file ∧ fs.HasFile directory file ∧
    finding ∈ Finding.ofFile inPartials (directory.child file)

/-- A chain goes through partials if its first directory has their name or the rest does. -/
theorem contains_cons (name : String) (names : List String) :
    (name :: names).contains partialsName =
      (name == partialsName || names.contains partialsName) := by
  rw [List.contains_cons, BEq.comm]

/-- Of a directory that can be listed there are only its files to find. -/
theorem foundIn_below_nil {inPartials : Bool} {directory : Location} {listing : Listing}
    (hlisting : fs.listing directory = .ok listing) :
    FoundIn fs inPartials (directory.below []) finding ↔
      ∃ file, (IsVisibleName file ∧ fs.HasFile directory file) ∧
        finding ∈ Finding.ofFile inPartials (directory.child file) := by
  rw [Location.below_nil, FoundIn]
  constructor
  · rintro (⟨cause, hcause, -⟩ | ⟨file, hvisible, hfile, hfinding⟩)
    · rw [FileSystem.listing_eq_error_iff.mpr hcause] at hlisting
      cases hlisting
    · exact ⟨file, ⟨hvisible, hfile⟩, hfinding⟩
  · rintro ⟨file, ⟨hvisible, hfile⟩, hfinding⟩
    exact .inr ⟨file, hvisible, hfile, hfinding⟩

/-- Whether something lies among partials is passed on from one directory to the next. -/
theorem foundIn_below_cons {inPartials : Bool} {directory : Location} {name : String}
    {names : List String} :
    FoundIn fs (inPartials || (name :: names).contains partialsName)
        (directory.below (name :: names)) finding ↔
      FoundIn fs (inPartials || name == partialsName || names.contains partialsName)
        ((directory.child name).below names) finding := by
  rw [contains_cons, Bool.or_assoc, Location.below_cons]

/-- A walk over entries comes across what it comes across at each of them. -/
theorem mem_walkEntries_iff {down : Bool → Location → Id (List Finding)} {inPartials : Bool}
    {directory : Location} {listing : Listing} :
    finding ∈ Id.run (walkEntries (m := Id) down inPartials directory listing) ↔
      ∃ entry ∈ listing, finding ∈ Id.run (visit (m := Id) down inPartials directory entry) := by
  induction listing with
  | nil => simp [walkEntries, Id.run, pure]
  | cons entry entries ih =>
    rw [run_walkEntries_cons, List.mem_append, ih]
    simp

/-- What a walk comes across at some entries, if it is known what the entries are and what it comes
across further down. -/
theorem mem_visit_iff {down : Bool → Location → Id (List Finding)}
    {below : Bool → Location → List String → Prop} {isDirectory isFile : String → Prop}
    {inPartials : Bool} {directory : Location} {entries : Listing}
    (hdirectories : ∀ name, ⟨name, .directory⟩ ∈ entries ↔ isDirectory name)
    (hfiles : ∀ name, ⟨name, .file⟩ ∈ entries ↔ isFile name)
    (hdown : ∀ inside location, finding ∈ Id.run (down inside location) ↔
      ∃ names, below inside location names) :
    (∃ entry ∈ entries, finding ∈ Id.run (visit (m := Id) down inPartials directory entry)) ↔
      (∃ name names, isDirectory name ∧
        below (inPartials || name == partialsName) (directory.child name) names) ∨
      ∃ file, isFile file ∧ finding ∈ Finding.ofFile inPartials (directory.child file) := by
  constructor
  · rintro ⟨⟨name, kind⟩, hentry, hfinding⟩
    cases kind with
    | directory =>
      obtain ⟨names, hbelow⟩ := (hdown _ _).mp hfinding
      exact .inl ⟨name, names, (hdirectories name).mp hentry, hbelow⟩
    | file => exact .inr ⟨name, (hfiles name).mp hentry, hfinding⟩
  · rintro (⟨name, names, hname, hbelow⟩ | ⟨file, hfile, hfinding⟩)
    · exact ⟨⟨name, .directory⟩, (hdirectories name).mpr hname, (hdown _ _).mpr ⟨names, hbelow⟩⟩
    · exact ⟨⟨file, .file⟩, (hfiles file).mpr hfile, hfinding⟩

/-- A walk of so many levels comes across what there is in the directories that shorter chains lead
to. -/
theorem mem_walk_iff {levels : Nat} {inPartials : Bool} {directory : Location} :
    finding ∈ Id.run (walk (m := Id) fs.listing levels inPartials directory) ↔
      ∃ names, names.length < levels ∧ fs.Descends directory names ∧
        FoundIn fs (inPartials || names.contains partialsName) (directory.below names)
          finding := by
  induction levels generalizing inPartials directory with
  | zero => simp [walk, Id.run, pure]
  | succ levels ih =>
    cases hlisting : fs.listing directory with
    | error cause =>
      have hread := FileSystem.listing_eq_error_iff.mp hlisting
      rw [run_walk_succ, hlisting, List.mem_singleton]
      -- No chain leads on from a directory that cannot be listed, so only the empty one counts.
      constructor
      · rintro rfl
        exact ⟨[], Nat.succ_pos _, fs.descends_nil _, .inl ⟨cause, by simpa using hread, by simp⟩⟩
      · rintro ⟨names, -, hchain, hfound⟩
        cases names with
        | nil =>
          rw [Location.below_nil] at hfound
          rcases hfound with ⟨other, hother, rfl⟩ | ⟨file, -, hfile, -⟩
          · rw [hread, Except.error.injEq] at hother
            rw [hother]
          · obtain ⟨children, hchildren⟩ := hfile.exists_children
            rw [hread] at hchildren
            cases hchildren
        | cons name names =>
          obtain ⟨-, hdirectory, -⟩ := FileSystem.descends_cons.mp hchain
          obtain ⟨children, hchildren⟩ := hdirectory.exists_children
          rw [hread] at hchildren
          cases hchildren
    | ok listing =>
      -- A chain is empty, or it has a first directory and goes on one level less deep from there.
      have hdown : ∀ inside location,
          finding ∈ Id.run (walk (m := Id) fs.listing levels inside location) ↔
            ∃ names, names.length < levels ∧ fs.Descends location names ∧
              FoundIn fs (inside || names.contains partialsName) (location.below names) finding :=
        fun inside location => ih
      rw [run_walk_succ, hlisting, mem_walkEntries_iff, mem_visit_iff
        (fun _ => FileSystem.mem_listing_directory hlisting)
        (fun _ => FileSystem.mem_listing_file hlisting) hdown]
      constructor
      · rintro (⟨name, names, ⟨hvisible, hdirectory⟩, hlength, hchain, hfound⟩ | hfile)
        · exact ⟨name :: names, Nat.succ_lt_succ hlength,
            FileSystem.descends_cons.mpr ⟨hvisible, hdirectory, hchain⟩,
            foundIn_below_cons.mpr hfound⟩
        · refine ⟨[], Nat.succ_pos _, fs.descends_nil _, ?_⟩
          rw [List.contains_nil, Bool.or_false]
          exact (foundIn_below_nil hlisting).mpr hfile
      · rintro ⟨names, hlength, hchain, hfound⟩
        cases names with
        | nil =>
          rw [List.contains_nil, Bool.or_false] at hfound
          exact .inr ((foundIn_below_nil hlisting).mp hfound)
        | cons name names =>
          obtain ⟨hvisible, hdirectory, hrest⟩ := FileSystem.descends_cons.mp hchain
          exact .inl ⟨name, names, ⟨hvisible, hdirectory⟩, Nat.lt_of_succ_lt_succ hlength, hrest,
            foundIn_below_cons.mp hfound⟩

/-- A file among partials is one of them, and another file is a document by its name. -/
theorem mem_ofFile_iff {inPartials : Bool} {directory : Location} {file : String} :
    finding ∈ Finding.ofFile inPartials (directory.child file) ↔
      inPartials = true ∧ finding = .partialFile (directory.child file) ∨
        inPartials = false ∧ IsDocumentName file ∧ finding = .document (directory.child file) := by
  rw [← Location.isSome_format?_child directory file]
  unfold Finding.ofFile
  cases inPartials with
  | true => simp
  | false =>
    simp only [Bool.false_eq_true, if_false, false_and, false_or, true_and]
    split
    · next hformat => simp [hformat]
    · next hformat => simp [hformat]

/-- What a file is found as is found at its place. -/
theorem location_of_mem_ofFile {inPartials : Bool} {directory : Location} {file : String}
    (hfinding : finding ∈ Finding.ofFile inPartials (directory.child file)) :
    finding.location = directory.child file := by
  rcases mem_ofFile_iff.mp hfinding with ⟨-, rfl⟩ | ⟨-, -, rfl⟩
  · rfl
  · rfl

theorem isRegistry_file (name : String) :
    isRegistry ⟨name, .file⟩ = true ↔ name ∈ Registry.fileNames := by
  simp [isRegistry, Registry.isFileName]

/-- A scan comes across what there is in the root, but for the registries, and in the directories
that chains lead to from the root. -/
theorem mem_found_iff (hwf : fs.WellFormed) {root : Location}
    {listing : Listing} (hlisting : fs.listing root = .ok listing) :
    finding ∈ found fs pathLimit root listing ↔
      ∃ names, fs.Descends root names ∧
        FoundIn fs (false || names.contains partialsName) (root.below names) finding ∧
        (names = [] → ∀ name ∈ Registry.fileNames, finding.location ≠ root.child name) := by
  -- The filter takes registry files away and leaves directories with their names alone.
  have hdirectories : ∀ name,
      ⟨name, .directory⟩ ∈ (listing.filter fun entry => !isRegistry entry) ↔
        IsVisibleName name ∧ fs.HasDirectory root name := by
    intro name
    rw [List.mem_filter, FileSystem.mem_listing_directory hlisting]
    simp [isRegistry]
  have hfiles : ∀ name, ⟨name, .file⟩ ∈ (listing.filter fun entry => !isRegistry entry) ↔
      (IsVisibleName name ∧ fs.HasFile root name) ∧ name ∉ Registry.fileNames := by
    intro name
    rw [List.mem_filter, FileSystem.mem_listing_file hlisting, ← isRegistry_file,
      Bool.not_eq_true', Bool.not_eq_true]
  rw [found, mem_walkEntries_iff, mem_visit_iff hdirectories hfiles fun _ _ => mem_walk_iff]
  constructor
  · rintro (⟨name, names, ⟨hvisible, hdirectory⟩, -, hchain, hfound⟩ |
      ⟨file, ⟨hfile, hnew⟩, hfinding⟩)
    · exact ⟨name :: names, FileSystem.descends_cons.mpr ⟨hvisible, hdirectory, hchain⟩,
        foundIn_below_cons.mpr hfound, nofun⟩
    · refine ⟨[], fs.descends_nil _, (foundIn_below_nil hlisting).mpr ⟨file, hfile, hfinding⟩,
        fun _ name hname hsame => hnew ?_⟩
      rw [location_of_mem_ofFile hfinding] at hsame
      have hequal : file = name := by simpa [Location.child] using hsame
      rwa [hequal]
  · rintro ⟨names, hchain, hfound, hnew⟩
    cases names with
    | nil =>
      obtain ⟨file, hfile, hfinding⟩ := (foundIn_below_nil hlisting).mp hfound
      exact .inr ⟨file, ⟨hfile, fun hmem => hnew rfl file hmem (location_of_mem_ofFile hfinding)⟩,
        hfinding⟩
    | cons name names =>
      obtain ⟨hvisible, hdirectory, hrest⟩ := FileSystem.descends_cons.mp hchain
      -- The chain is short enough for the walk not to run out of levels.
      exact .inl ⟨name, names, ⟨hvisible, hdirectory⟩, hrest.length_lt hwf, hrest,
        foundIn_below_cons.mp hfound⟩

/-- A walk over entries comes across the same if it does so below every directory among them. -/
theorem walkEntries_congr {down other : Bool → Location → Id (List Finding)} {inPartials : Bool}
    {directory : Location} {listing : Listing}
    (hsame : ∀ name, ⟨name, .directory⟩ ∈ listing → ∀ inside,
      Id.run (down inside (directory.child name)) =
        Id.run (other inside (directory.child name))) :
    Id.run (walkEntries (m := Id) down inPartials directory listing) =
      Id.run (walkEntries (m := Id) other inPartials directory listing) := by
  induction listing with
  | nil => rfl
  | cons entry entries ih =>
    rw [run_walkEntries_cons, run_walkEntries_cons,
      ih fun name hentry => hsame name (List.mem_cons_of_mem _ hentry)]
    obtain ⟨name, kind⟩ := entry
    cases kind with
    | directory => exact congrArg (· ++ _) (hsame name List.mem_cons_self _)
    | file => rfl

/-- A walk that has a level for every chain below its directory comes across the same with more
levels. -/
theorem walk_add_levels {levels more : Nat} {inPartials : Bool} {directory : Location}
    (hchains : ∀ names, fs.Descends directory names → names.length < levels) :
    Id.run (walk (m := Id) fs.listing (levels + more) inPartials directory) =
      Id.run (walk (m := Id) fs.listing levels inPartials directory) := by
  induction levels generalizing inPartials directory with
  | zero => exact absurd (hchains [] (fs.descends_nil _)) (Nat.not_lt_zero _)
  | succ levels ih =>
    rw [Nat.add_right_comm, run_walk_succ, run_walk_succ]
    cases hlisting : fs.listing directory with
    | error cause => rfl
    | ok listing =>
      refine walkEntries_congr fun name hentry inside => ih fun names hrest => ?_
      -- One directory more makes a chain from this directory.
      obtain ⟨hvisible, hdirectory⟩ := (FileSystem.mem_listing_directory hlisting).mp hentry
      exact Nat.lt_of_succ_lt_succ
        (hchains (name :: names) (FileSystem.descends_cons.mpr ⟨hvisible, hdirectory, hrest⟩))

/-- A scan finds the same with more levels than it has. -/
theorem run_scanTo_eq (hwf : fs.WellFormed) {levels : Nat} (hlevels : pathLimit ≤ levels)
    (root : Location) :
    Id.run (scanTo (m := Id) levels fs.listing root) =
      Id.run (scan (m := Id) fs.listing root) := by
  obtain ⟨more, rfl⟩ := Nat.exists_eq_add_of_le hlevels
  rw [scan_eq_scanTo]
  cases hlisting : fs.listing root with
  | error cause => simp only [scanTo, Id.run, bind, hlisting]
  | ok listing =>
    -- Every chain below the root has come to its end before the levels have.
    have hfound : found fs (pathLimit + more) root listing = found fs pathLimit root listing :=
      walkEntries_congr fun _ _ _ => walk_add_levels fun _ hchain => hchain.length_lt hwf
    rw [run_scanTo_of_listing hlisting, run_scanTo_of_listing hlisting, hfound]

/-- A scan that looks into every directory finds different places. -/
theorem isSorted_of_scan (hwf : fs.WellFormed) {root : Location} {findings : Findings}
    (hscan : Id.run (scan (m := Id) fs.listing root) = .ok findings) : findings.IsSorted := by
  -- A scan without a memory is one whose memory is never looked at.
  have hlist : ∀ directory, Ensures (fun _ : Unit => True) (pure (fs.listing directory))
      fun result => ∀ listing, result = .ok listing → listing.IsProper :=
    fun directory => .pure fun listing hlisting => hwf.isProper_of_listing hlisting
  have hsorted := (ensures_scan_isSorted root hlist () trivial).1
  rw [scan_pure] at hsorted
  exact hsorted findings hscan

/-- A scan of a proper root that looks into every directory finds different proper places. -/
theorem isProper_of_scan (hwf : fs.WellFormed) {root : Location} (hroot : root.IsProper)
    {findings : Findings} (hscan : Id.run (scan (m := Id) fs.listing root) = .ok findings) :
    findings.IsProper := by
  have hlist : ∀ directory, Ensures (fun _ : Unit => True) (pure (fs.listing directory))
      fun result => ∀ listing, result = .ok listing → listing.IsProper :=
    fun directory => .pure fun listing hlisting => hwf.isProper_of_listing hlisting
  have hproper := (ensures_scan_isProper hroot hlist () trivial).1
  rw [scan_pure] at hproper
  exact hproper findings hscan

/-! ### Findings -/

/-- Something is picked out of the findings if the finding that it is picked from is among them. -/
theorem mem_filterMap_kind {α : Type} {kind? : Finding → Option α} {a : α}
    (hkind : ∀ other, kind? other = some a ↔ other = finding) {found : List Finding} :
    a ∈ found.filterMap kind? ↔ finding ∈ found := by
  simp [List.mem_filterMap, hkind]

theorem mem_documents_collect {registry : Option Location} {found : List Finding}
    {location : Location} :
    location ∈ (collect registry found).documents ↔ .document location ∈ found :=
  List.mem_mergeSort.trans
    (mem_filterMap_kind fun other => by cases other <;> simp [Finding.document?])

theorem mem_partials_collect {registry : Option Location} {found : List Finding}
    {location : Location} :
    location ∈ (collect registry found).partials ↔ .partialFile location ∈ found :=
  List.mem_mergeSort.trans
    (mem_filterMap_kind fun other => by cases other <;> simp [Finding.partial?])

theorem mem_failures_collect {registry : Option Location} {found : List Finding}
    {directory : Location} {cause : IoError} :
    (directory, cause) ∈ (collect registry found).failures ↔
      .unlistable directory cause ∈ found :=
  mem_filterMap_kind fun other => by cases other <;> simp [Finding.unlistable?]

theorem hasContent_nil {root : Location} {name : String} :
    fs.HasContent root [] name ↔ IsVisibleName name ∧ fs.HasFile root name := by
  constructor
  · rintro ⟨-, hvisible, hfile⟩
    exact ⟨hvisible, by rwa [Location.below_nil] at hfile⟩
  · rintro ⟨hvisible, hfile⟩
    exact ⟨fs.descends_nil root, hvisible, by rwa [Location.below_nil]⟩

/-- A listing has a registry of a name if it has a file of that name. -/
theorem any_isRegistry_iff {listing : Listing} {name : String}
    (hname : name ∈ Registry.fileNames) :
    (listing.any fun entry => isRegistry entry && entry.name == name) = true ↔
      ⟨name, .file⟩ ∈ listing := by
  rw [List.any_eq_true]
  constructor
  · rintro ⟨⟨other, kind⟩, hentry, hregistry⟩
    simp only [isRegistry, Bool.and_eq_true, beq_iff_eq] at hregistry
    obtain ⟨⟨rfl, -⟩, rfl⟩ := hregistry
    exact hentry
  · intro hentry
    exact ⟨_, hentry, by simpa using (isRegistry_file name).mpr hname⟩

/-- The registry is the first of the registry files in the root. -/
theorem registryIn_eq_some_iff {root location : Location} {listing : Listing}
    (hlisting : fs.listing root = .ok listing) :
    registryIn root listing = some location ↔
      ∃ earlier name later, Registry.fileNames = earlier ++ name :: later ∧
        location = root.child name ∧ fs.HasContent root [] name ∧
          ∀ other ∈ earlier, ¬fs.HasContent root [] other := by
  -- Of the names that count, those in the listing are those of files in the root.
  have hpresent : ∀ name ∈ Registry.fileNames,
      (listing.any fun entry => isRegistry entry && entry.name == name) = true ↔
        fs.HasContent root [] name := by
    intro name hname
    rw [any_isRegistry_iff hname, FileSystem.mem_listing_file hlisting, hasContent_nil]
  rw [registryIn, Registry.chooseName?, Option.map_eq_some_iff]
  constructor
  · rintro ⟨name, hchosen, rfl⟩
    obtain ⟨hname, earlier, later, hnames, hearlier⟩ := List.find?_eq_some_iff_append.mp hchosen
    have hmem : ∀ other ∈ earlier, other ∈ Registry.fileNames := fun other hother =>
      hnames ▸ List.mem_append_left _ hother
    refine ⟨earlier, name, later, hnames, rfl, (hpresent name (hnames ▸ by simp)).mp hname,
      fun other hother hcontent => ?_⟩
    have hnone := hearlier other hother
    rw [(hpresent other (hmem other hother)).mpr hcontent] at hnone
    cases hnone
  · rintro ⟨earlier, name, later, hnames, rfl, hname, hearlier⟩
    refine ⟨name, List.find?_eq_some_iff_append.mpr ⟨(hpresent name (hnames ▸ by simp)).mpr hname,
      earlier, later, hnames, fun other hother => ?_⟩, rfl⟩
    rw [Bool.not_eq_true', ← Bool.not_eq_true,
      hpresent other (hnames ▸ List.mem_append_left _ hother)]
    exact hearlier other hother

end Scan

/-- The findings are the content tree below a root: its documents and partials in strictly ascending
order, the registry, and every directory that cannot be listed, once. -/
structure FindsContent (fs : FileSystem) (root : Location) (findings : Findings) : Prop where
  documents_ascending : findings.documents.Pairwise fun a b => a.le b = true ∧ a ≠ b
  mem_documents : ∀ location, location ∈ findings.documents ↔
    ∃ directories file, location = (root.below directories).child file ∧
      fs.HasContent root directories file ∧ "partials" ∉ directories ∧ IsDocumentName file ∧
      ¬(directories = [] ∧ file ∈ ["registry.yaml", "registry.yml", "registry.json"])
  partials_ascending : findings.partials.Pairwise fun a b => a.le b = true ∧ a ≠ b
  mem_partials : ∀ location, location ∈ findings.partials ↔
    ∃ directories file, location = (root.below directories).child file ∧
      fs.HasContent root directories file ∧ "partials" ∈ directories
  registry : ∀ location, findings.registry = some location ↔
    ∃ earlier name later,
      ["registry.yaml", "registry.yml", "registry.json"] = earlier ++ name :: later ∧
      location = root.child name ∧ fs.HasContent root [] name ∧
      ∀ other ∈ earlier, ¬fs.HasContent root [] other
  failures_distinct : (findings.failures.map Prod.fst).Nodup
  mem_failures : ∀ directory cause, (directory, cause) ∈ findings.failures ↔
    ∃ directories, directory = root.below directories ∧ fs.Descends root directories ∧
      fs.readDirectory directory.path = .error cause

namespace Scan

variable {fs : FileSystem}

section Found

variable {root : Location} {listing : Listing}

/-- The documents are the files with their extensions, but for partials and registries. -/
theorem document_mem_found_iff (hwf : fs.WellFormed) (hlisting : fs.listing root = .ok listing)
    (location : Location) :
    .document location ∈ found fs pathLimit root listing ↔
      ∃ directories file, location = (root.below directories).child file ∧
        fs.HasContent root directories file ∧ "partials" ∉ directories ∧ IsDocumentName file ∧
        ¬(directories = [] ∧ file ∈ ["registry.yaml", "registry.yml", "registry.json"]) := by
  rw [mem_found_iff hwf hlisting]
  constructor
  · rintro ⟨directories, hchain, ⟨cause, -, hfinding⟩ | ⟨file, hvisible, hfile, hfinding⟩, hnew⟩
    · cases hfinding
    · rcases mem_ofFile_iff.mp hfinding with ⟨-, hfinding⟩ | ⟨hout, hname, hfinding⟩
      · cases hfinding
      · cases hfinding
        refine ⟨directories, file, rfl, ⟨hchain, hvisible, hfile⟩,
          by simpa [partialsName] using hout, hname, ?_⟩
        rintro ⟨rfl, hregistry⟩
        exact hnew rfl file hregistry (by rw [Location.below_nil]; rfl)
  · rintro ⟨directories, file, rfl, ⟨hchain, hvisible, hfile⟩, hout, hname, hnew⟩
    refine ⟨directories, hchain, .inr ⟨file, hvisible, hfile,
      mem_ofFile_iff.mpr (.inr ⟨by simpa [partialsName] using hout, hname, rfl⟩)⟩, ?_⟩
    -- Directly in the root, a place tells the name.
    rintro rfl name hregistry hsame
    have hequal : file = name := by
      simpa [Finding.location, Location.child] using hsame
    exact hnew ⟨rfl, hequal ▸ hregistry⟩

/-- The partials are the files with a directory of partials on their way. -/
theorem partial_mem_found_iff (hwf : fs.WellFormed) (hlisting : fs.listing root = .ok listing)
    (location : Location) :
    .partialFile location ∈ found fs pathLimit root listing ↔
      ∃ directories file, location = (root.below directories).child file ∧
        fs.HasContent root directories file ∧ "partials" ∈ directories := by
  rw [mem_found_iff hwf hlisting]
  constructor
  · rintro ⟨directories, hchain, ⟨cause, -, hfinding⟩ | ⟨file, hvisible, hfile, hfinding⟩, -⟩
    · cases hfinding
    · rcases mem_ofFile_iff.mp hfinding with ⟨hin, hfinding⟩ | ⟨-, -, hfinding⟩
      · cases hfinding
        exact ⟨directories, file, rfl, ⟨hchain, hvisible, hfile⟩,
          by simpa [partialsName] using hin⟩
      · cases hfinding
  · rintro ⟨directories, file, rfl, ⟨hchain, hvisible, hfile⟩, hin⟩
    refine ⟨directories, hchain, .inr ⟨file, hvisible, hfile,
      mem_ofFile_iff.mpr (.inl ⟨by simpa [partialsName] using hin, rfl⟩)⟩, ?_⟩
    -- There are no partials directly in the root.
    rintro rfl
    cases hin

/-- The failures are the directories at the end of chains that cannot be listed. -/
theorem unlistable_mem_found_iff (hwf : fs.WellFormed) (hlisting : fs.listing root = .ok listing)
    (directory : Location) (cause : IoError) :
    .unlistable directory cause ∈ found fs pathLimit root listing ↔
      ∃ directories, directory = root.below directories ∧ fs.Descends root directories ∧
        fs.readDirectory directory.path = .error cause := by
  rw [mem_found_iff hwf hlisting]
  constructor
  · rintro ⟨directories, hchain, ⟨other, hother, hfinding⟩ | ⟨file, -, -, hfinding⟩, -⟩
    · cases hfinding
      exact ⟨directories, rfl, hchain, hother⟩
    · rcases mem_ofFile_iff.mp hfinding with ⟨-, hfinding⟩ | ⟨-, -, hfinding⟩ <;> cases hfinding
  · rintro ⟨directories, rfl, hchain, hcause⟩
    refine ⟨directories, hchain, .inl ⟨cause, hcause, rfl⟩, ?_⟩
    -- The root is not one of its children.
    rintro rfl name - hsame
    have hlength := congrArg (fun location => location.names.length) hsame
    simp [Finding.location, Location.child] at hlength

end Found

/-- A scan that looks into every directory finds the content tree. -/
theorem findsContent_of_run_scan (hwf : fs.WellFormed) {root : Location} {findings : Findings}
    (hscan : Id.run (scan (m := Id) fs.listing root) = .ok findings) :
    FindsContent fs root findings := by
  obtain ⟨hdocuments, hpartials, hdistinct⟩ := isSorted_of_scan hwf hscan
  obtain ⟨hothers, hdocumentsApart, -⟩ := List.nodup_append.mp hdistinct
  obtain ⟨hfailuresApart, hpartialsApart, -⟩ := List.nodup_append.mp hothers
  cases hlisting : fs.listing root with
  | error cause => simp [scan_eq_scanTo, scanTo, Id.run, bind, hlisting] at hscan
  | ok listing =>
    rw [scan_eq_scanTo, run_scanTo_of_listing hlisting, Except.ok.injEq] at hscan
    subst hscan
    exact {
      documents_ascending := hdocuments.and hdocumentsApart
      mem_documents := fun location =>
        mem_documents_collect.trans (document_mem_found_iff hwf hlisting location)
      partials_ascending := hpartials.and hpartialsApart
      mem_partials := fun location =>
        mem_partials_collect.trans (partial_mem_found_iff hwf hlisting location)
      registry := fun location => registryIn_eq_some_iff hlisting
      failures_distinct := hfailuresApart
      mem_failures := fun directory cause =>
        mem_failures_collect.trans (unlistable_mem_found_iff hwf hlisting directory cause) }

end Scan

/-- What holds of everything that is remembered does so if nothing is. -/
theorem Listings.holds_of_empty {valid : Location → Listing → Prop} {listings : Listings}
    (hempty : listings.session.swept.cache.entries = []) : listings.Holds valid := by
  intro stored hstored
  rw [hempty] at hstored
  cases hstored

namespace Service

variable {fs : FileSystem} {root : Location}

/-- A scan does not depend on the order in which the entries of directories come, nor does what it
remembers. -/
theorem scan_eq_of_rearranged (hwf : fs.WellFormed) {other : FileSystem}
    (halike : fs.Rearranged other) (ttl : Nat) (root : Location) :
    scan other ttl root = scan fs ttl root := by
  have hlist : Listings.list other ttl = Listings.list fs ttl := by
    funext directory
    simp only [Listings.list, halike.listing_eq hwf directory]
  unfold scan
  rw [hlist]
  rcases halike.stat_alike root.path with
    ⟨cause, hfirst, hsecond⟩ | ⟨place, node, seen, hfirst, hsecond, -, -, hrel⟩
  · rw [hfirst, hsecond]
  · rw [hfirst, hsecond]
    cases hrel <;> rfl

/-- A scan of a root that can be listed comes to its end and finds the content tree, if nothing is
remembered. No chain of directories is longer than the walk has levels, so that further levels
change nothing, and the order in which entries come changes nothing either. -/
theorem scan_findsContent (hwf : fs.WellFormed) {children : List (String × Tree)}
    (hchildren : fs.readDirectory root.path = .ok children) :
    (∀ names, fs.Descends root names → names.length < pathLimit) ∧
    ∃ findings, FindsContent fs root findings ∧
      ∀ ttl listings, listings.session.swept.cache.entries = [] →
        (scan fs ttl root listings).1 = .ok findings ∧
        (∀ levels, pathLimit ≤ levels →
          (Scan.scanTo levels (Listings.list fs ttl) root listings).1 = .ok findings) ∧
        ∀ other, fs.Rearranged other →
          scan other ttl root listings = scan fs ttl root listings := by
  obtain ⟨listing, hlisting⟩ := FileSystem.exists_listing hchildren
  have hscan : Id.run (Scan.scan (m := Id) fs.listing root) =
      .ok (Scan.collect (Scan.registryIn root listing) (Scan.found fs pathLimit root listing)) :=
    Scan.run_scanTo_of_listing hlisting
  refine ⟨fun names hchain => hchain.length_lt hwf, _, Scan.findsContent_of_run_scan hwf hscan,
    fun ttl listings hempty => ?_⟩
  -- Whatever is remembered in the course of the scan is what has been read.
  have hholds : listings.Holds fun directory listing => fs.listing directory = .ok listing :=
    Listings.holds_of_empty hempty
  refine ⟨?_, fun levels hlevels => ?_, fun other halike => ?_⟩
  · rw [(ensures_scan_plain (fun _ _ hread => hread) (fun _ _ _ hreal => hreal) ttl listings
      hholds).1]
    simp only [plainScan, FileSystem.stat_of_readDirectory hchildren, Tree.isDirectory, if_true,
      hscan]
    rfl
  · have hlist : ∀ directory, root.isWithin directory = true →
        Ensures (Listings.Holds fun directory listing => fs.listing directory = .ok listing)
          (Listings.list fs ttl directory) (· = fs.listing directory) :=
      fun directory _ =>
        Listings.ensures_list_eq (fun _ _ hread => hread) (fun _ hreal => hreal) ttl
    have hfurther := (Scan.ensures_scanTo_eq levels hlist root.isWithin_self listings hholds).1
    rw [hfurther, Scan.run_scanTo_eq hwf hlevels, hscan]
  · rw [scan_eq_of_rearranged hwf halike]

/-- A link that leads back to the root does not keep a scan from its end. -/
theorem scan_findsContent_of_loop :
    let fs : FileSystem := ⟨.directory true [("loop", .link ⟨"/"⟩),
      ("registry.yml", .file true "entries: {}".toUTF8), ("a.YAML", .file true "id: a".toUTF8)],
      .top⟩
    ∃ findings, (scan fs 1000 .top (.start ⟨4, none, none⟩ false)).1 = .ok findings ∧
      FindsContent fs .top findings ∧ ⟨["a.YAML"]⟩ ∈ findings.documents := by
  intro fs
  have hwf : fs.WellFormed := by
    refine ⟨.directory true (by decide) (by decide) ?_, Location.isProper_top⟩
    simp only [List.forall_mem_cons]
    exact ⟨.link _, .file true _, .file true _, by simp⟩
  have htop : fs.canonicalize (Location.path .top) = .ok .top :=
    FileSystem.canonicalize_path_top rfl
  have hchildren : fs.readDirectory (Location.path .top) = .ok [("loop", .link ⟨"/"⟩),
      ("registry.yml", .file true "entries: {}".toUTF8),
      ("a.YAML", .file true "id: a".toUTF8)] := by
    simp only [FileSystem.readDirectory, FileSystem.stat, htop, bind, Except.bind]
    rfl
  obtain ⟨-, findings, hfinds, hscan⟩ := scan_findsContent hwf hchildren
  refine ⟨findings, (hscan 1000 _ rfl).1, hfinds, (hfinds.mem_documents _).mpr ?_⟩
  have hcontent : fs.HasContent .top [] "a.YAML" := by
    refine Scan.hasContent_nil.mpr ⟨isHiddenName_eq_false_iff.mp (by decide), .inl ?_⟩
    exact ⟨true, "id: a".toUTF8, _, hchildren, by simp⟩
  exact ⟨[], "a.YAML", rfl, hcontent, by simp, ⟨"a", "YAML", by decide, by decide, by decide⟩,
    by decide⟩

end Service

end TemplateCatalog
