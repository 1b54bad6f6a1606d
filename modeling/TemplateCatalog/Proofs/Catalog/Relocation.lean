import TemplateCatalog.Proofs.Catalog.Discovery
import TemplateCatalog.Proofs.Catalog.PlainTree

/-!
# Content trees in other places

The same content tree may stand below two roots, in one file system or in two. What is found at a
chain of names below the one root is then found at the same chain below the other, so that both are
scanned alike: nothing that a scan looks at depends on the names of the root or on what is above it.
There is one thing that does depend on them, and it is not up to the scan. The system takes paths up
to a certain length only, so it may turn a path away below a root that is itself far down and let
the same chain of names pass below another root. This matters for the paths that a load opens: those
of directories, partials, documents and the registry. A file that is none of these is passed by,
however far down it is.

The module introduces:

* `Tree.Lists`: a directory of a tree has an entry;
* `Tree.Reads`: a file of a tree is a partial, a document or the registry;
* `Tree.Opens`: a load opens what stands at the end of a chain of names;
* `FileSystem.Relocated`: the same tree stands below two roots, and the same of what a load opens in
  it can be reached;
* `Location.under`, `Finding.under`, `Findings.under`: what is at a place, told from a root.

Main statements:

* `FileSystem.Relocated.stat_eq`, `FileSystem.Relocated.listing_eq`: the same is found below both
  roots.
* `Location.sort_under`: the order of places does not depend on the root.
* `FileSystem.Relocated.scan`: scans of both roots find the same below them.
-/

namespace TemplateCatalog

/-! ### What a load opens -/

namespace Tree

variable {tree : Tree} {names : List String} {name : String}

/-- The directory at the end of a chain of names can be listed, and this is one of its entries. -/
def Lists (tree : Tree) (names : List String) (entry : ListingEntry) : Prop :=
  ∃ children, tree.at? names = some (.directory true children) ∧
    entry ∈ children.filterMap FileSystem.plainEntry?

/-- The tree itself has a file of this name, which is the first of the names of registries that it
has a file of. -/
def IsRegistry (tree : Tree) (name : String) : Prop :=
  ∃ earlier later, Registry.fileNames = earlier ++ name :: later ∧
    tree.Lists [] ⟨name, .file⟩ ∧ ∀ other ∈ earlier, ¬tree.Lists [] ⟨other, .file⟩

/-- A load reads the files of this name in the directory that the names lead to. -/
inductive Reads (tree : Tree) : List String → String → Prop where
  /-- A partial, which has a directory of partials on its way. -/
  | partialFile {directories : List String} {file : String}
      (inPartials : partialsName ∈ directories) : Reads tree directories file
  /-- A document. The names of registries are not for documents in the root. -/
  | document {directories : List String} {file : String} (named : IsDocumentName file)
      (ordinary : directories = [] → file ∉ Registry.fileNames) : Reads tree directories file
  /-- The registry. -/
  | registry {file : String} (first : tree.IsRegistry file) : Reads tree [] file

/-- A load opens what stands at the end of a chain of names. -/
inductive Opens (tree : Tree) : List String → Prop where
  /-- The root. -/
  | root : Opens tree []
  /-- A directory that is listed. -/
  | directory {names : List String} {name : String} (above : Opens tree names)
      (listed : tree.Lists names ⟨name, .directory⟩) : Opens tree (names ++ [name])
  /-- A file that is listed, and read as well. -/
  | file {names : List String} {name : String} (above : Opens tree names)
      (listed : tree.Lists names ⟨name, .file⟩) (read : tree.Reads names name) :
    Opens tree (names ++ [name])

/-- An entry has the name of the child that it is made of. -/
theorem name_of_plainEntry? {child : String × Tree} {entry : ListingEntry}
    (hentry : FileSystem.plainEntry? child = some entry) : child.1 = entry.name := by
  unfold FileSystem.plainEntry? at hentry
  split at hentry
  · cases hentry
  · split at hentry <;> cases hentry <;> rfl

/-- What is listed stands in the tree. -/
theorem Lists.exists_node (hwf : tree.WellFormed) {entry : ListingEntry}
    (hlists : tree.Lists names entry) : ∃ node, tree.at? (names ++ [entry.name]) = some node := by
  obtain ⟨children, hnode, hentry⟩ := hlists
  obtain ⟨child, hchild, hmade⟩ := List.mem_filterMap.mp hentry
  exact ⟨child.2, name_of_plainEntry? hmade ▸ hwf.at?_child hnode hchild⟩

/-- What a load opens stands in the tree. -/
theorem Opens.exists_node (hwf : tree.WellFormed) (hopens : tree.Opens names) :
    ∃ node, tree.at? names = some node := by
  cases hopens with
  | root => exact ⟨tree, rfl⟩
  | directory above listed => exact listed.exists_node hwf
  | file above listed read => exact listed.exists_node hwf

end Tree

/-! ### Trees below a root -/

namespace FileSystem

variable {fs other : FileSystem} {root place : Location} {tree node : Tree} {names : List String}

/-- The same tree without links stands below two roots, and the same of what a load opens in it can
be reached below both. -/
structure Relocated (fs other : FileSystem) (root place : Location) (tree : Tree) : Prop where
  here : fs.Carries root tree
  there : other.Carries place tree
  wellFormed : tree.WellFormed
  links : tree.LinkFree
  reach : ∀ names, tree.Opens names →
    ((root.below names).IsReachable ↔ (place.below names).IsReachable)

namespace Relocated

variable (hrelocated : fs.Relocated other root place tree)

include hrelocated

/-- The same is found below both roots. -/
theorem stat_eq (hopens : tree.Opens names) :
    fs.stat (root.below names).path = other.stat (place.below names).path := by
  obtain ⟨node, hnode⟩ := hopens.exists_node hrelocated.wellFormed
  have hlink := hrelocated.links.ne_link hnode
  rw [(hrelocated.here.below hrelocated.wellFormed hnode).stat_eq hlink,
    (hrelocated.there.below hrelocated.wellFormed hnode).stat_eq hlink]
  simp only [hrelocated.reach names hopens]

theorem readDirectory_eq (hopens : tree.Opens names) :
    fs.readDirectory (root.below names).path = other.readDirectory (place.below names).path := by
  rw [readDirectory, readDirectory, hrelocated.stat_eq hopens]

theorem readText_eq (hopens : tree.Opens names) :
    fs.readText (root.below names).path = other.readText (place.below names).path := by
  rw [readText, readText, hrelocated.stat_eq hopens]

/-- The children of a directory that can be listed are those that it has in the tree. -/
theorem at?_of_readDirectory (hopens : tree.Opens names) {children : List (String × Tree)}
    (hread : fs.readDirectory (root.below names).path = .ok children) :
    tree.at? names = some (.directory true children) := by
  obtain ⟨node, hnode⟩ := hopens.exists_node hrelocated.wellFormed
  have hstat := stat_of_readDirectory hread
  rw [(hrelocated.here.below hrelocated.wellFormed hnode).stat_eq
    (hrelocated.links.ne_link hnode)] at hstat
  split at hstat
  · rw [hnode, Except.ok.inj hstat]
  · cases hstat

/-- Directories have the same listings below both roots, and their entries are those that they have
in the tree. -/
theorem listing_eq (hopens : tree.Opens names) :
    fs.listing (root.below names) = other.listing (place.below names) ∧
      ∀ listing, fs.listing (root.below names) = .ok listing →
        ∀ entry, entry ∈ listing ↔ tree.Lists names entry := by
  have hsame := hrelocated.readDirectory_eq hopens
  cases hread : fs.readDirectory (root.below names).path with
  | error cause =>
    rw [hread] at hsame
    rw [listing_eq_error_iff.mpr hread, listing_eq_error_iff.mpr hsame.symm]
    exact ⟨rfl, nofun⟩
  | ok children =>
    rw [hread] at hsame
    have hnode := hrelocated.at?_of_readDirectory hopens hread
    have hlinks : ∀ child ∈ children, ∀ target, child.2 ≠ .link target := by
      intro child hchild target hlink
      exact hrelocated.links _ target
        (hlink ▸ hrelocated.wellFormed.at?_child hnode hchild)
    rw [listing_of_readDirectory hread hlinks, listing_of_readDirectory hsame.symm hlinks]
    refine ⟨rfl, fun listing hlisting entry => ?_⟩
    obtain rfl := Except.ok.inj hlisting
    rw [List.mem_mergeSort]
    constructor
    · intro hentry
      exact ⟨children, hnode, hentry⟩
    · rintro ⟨others, hothers, hentry⟩
      rw [hnode] at hothers
      cases hothers
      exact hentry

end Relocated

end FileSystem

/-! ### Places told from a root -/

namespace Location

/-- The place that a location is at below a root, the location being told from there. -/
def under (root location : Location) : Location :=
  root.below location.names

theorem child_below (root : Location) (names : List String) (name : String) :
    (root.below names).child name = root.below (names ++ [name]) := by
  simp [child, below]

/-- Below a root everything but the root itself keeps its name. -/
theorem name_under (root : Location) {location : Location} (hne : location.names ≠ []) :
    (root.under location).name = location.name := by
  simp [name, under, below, List.getLast?_append, List.getLast?_eq_some_getLast hne]

theorem stem_under (root : Location) {location : Location} (hne : location.names ≠ []) :
    (root.under location).stem = location.stem := by
  rw [stem, stem, root.name_under hne]

theorem format?_under (root : Location) {location : Location} (hne : location.names ≠ []) :
    (root.under location).format? = location.format? := by
  rw [format?, format?, extension?, extension?, root.name_under hne]

/-- The order of names does not depend on what comes before them. -/
theorem namesLe_append (before a b : List String) :
    namesLe (before ++ a) (before ++ b) = namesLe a b := by
  induction before with
  | nil => rfl
  | cons name before ih => simp [namesLe, ih]

/-- The order of places does not depend on the root. -/
theorem sort_under (root : Location) (locations : List Location) :
    sort (locations.map root.under) = (sort locations).map root.under := by
  refine (List.map_mergeSort fun a _ b _ => ?_).symm
  exact (namesLe_append root.names a.names b.names).symm

end Location

/-- A finding below a root, told from there. -/
def Finding.under (root : Location) : Finding → Finding
  | .document location => .document (root.under location)
  | .partialFile location => .partialFile (root.under location)
  | .unlistable directory cause => .unlistable (root.under directory) cause

/-- Findings below a root, told from there. -/
def Findings.under (root : Location) (findings : Findings) : Findings where
  documents := findings.documents.map root.under
  partials := findings.partials.map root.under
  registry := findings.registry.map root.under
  failures := findings.failures.map fun failure => (root.under failure.1, failure.2)

/-- All that was found is something in the tree that a load opens, and not the root itself. -/
def Findings.OpenedIn (tree : Tree) (findings : Findings) : Prop :=
  ∀ location ∈ findings.registry.toList ++ findings.locations,
    tree.Opens location.names ∧ location.names ≠ []

namespace Scan

theorem ofFile_under (root : Location) (inPartials : Bool) {location : Location}
    (hne : location.names ≠ []) :
    Finding.ofFile inPartials (root.under location) =
      (Finding.ofFile inPartials location).map (Finding.under root) := by
  unfold Finding.ofFile
  rw [root.format?_under hne]
  split
  · rfl
  · split <;> rfl

/-- What is collected below a root does not depend on the root. -/
theorem collect_under (root : Location) (registry : Option Location) (found : List Finding) :
    collect (registry.map root.under) (found.map (Finding.under root)) =
      (collect registry found).under root := by
  have hdocuments : (found.map (Finding.under root)).filterMap Finding.document? =
      (found.filterMap Finding.document?).map root.under := by
    rw [List.filterMap_map, List.map_filterMap]
    exact List.filterMap_congr fun finding _ => by cases finding <;> rfl
  have hpartials : (found.map (Finding.under root)).filterMap Finding.partial? =
      (found.filterMap Finding.partial?).map root.under := by
    rw [List.filterMap_map, List.map_filterMap]
    exact List.filterMap_congr fun finding _ => by cases finding <;> rfl
  have hfailures : (found.map (Finding.under root)).filterMap Finding.unlistable? =
      (found.filterMap Finding.unlistable?).map
        fun failure => (root.under failure.1, failure.2) := by
    rw [List.filterMap_map, List.map_filterMap]
    exact List.filterMap_congr fun finding _ => by cases finding <;> rfl
  unfold collect Findings.under
  rw [hdocuments, hpartials, hfailures, Location.sort_under, Location.sort_under]

end Scan

/-- Two walks come across the same below two roots, and all of it is something in the tree that a
load opens. -/
def FoundAlike (root place : Location) (tree : Tree) (found others : List Finding) : Prop :=
  ∃ told : List Finding, found = told.map (Finding.under root) ∧
    others = told.map (Finding.under place) ∧
    ∀ finding ∈ told, tree.Opens finding.location.names ∧ finding.location.names ≠ []

theorem FoundAlike.nil (root place : Location) (tree : Tree) : FoundAlike root place tree [] [] :=
  ⟨[], rfl, rfl, nofun⟩

theorem FoundAlike.append {root place : Location} {tree : Tree}
    {found others more further : List Finding} (hfirst : FoundAlike root place tree found others)
    (hsecond : FoundAlike root place tree more further) :
    FoundAlike root place tree (found ++ more) (others ++ further) := by
  obtain ⟨told, rfl, rfl, htold⟩ := hfirst
  obtain ⟨rest, rfl, rfl, hrest⟩ := hsecond
  exact ⟨told ++ rest, List.map_append.symm, List.map_append.symm,
    List.forall_mem_append.mpr ⟨htold, hrest⟩⟩

namespace Scan

variable {fs other : FileSystem} {root place : Location} {tree : Tree} {names : List String}
  {inPartials : Bool}

/-- What is found as something is read by a load. -/
theorem reads_of_mem_ofFile {name : String} (hpartials : inPartials = true → partialsName ∈ names)
    (hordinary : names = [] → name ∉ Registry.fileNames) {finding : Finding}
    (hfinding : finding ∈ Finding.ofFile inPartials (Location.child ⟨names⟩ name)) :
    tree.Reads names name := by
  rcases mem_ofFile_iff.mp hfinding with ⟨hinside, -⟩ | ⟨-, hnamed, -⟩
  · exact .partialFile (hpartials hinside)
  · exact .document hnamed hordinary

/-- Files are found alike below two roots. -/
theorem foundAlike_ofFile {name : String} (hpartials : inPartials = true → partialsName ∈ names)
    (hordinary : names = [] → name ∉ Registry.fileNames) (hopens : tree.Opens names)
    (hlisted : tree.Lists names ⟨name, .file⟩) :
    FoundAlike root place tree (Finding.ofFile inPartials ((root.below names).child name))
      (Finding.ofFile inPartials ((place.below names).child name)) := by
  have hne : (Location.mk (names ++ [name])).names ≠ [] := by simp
  refine ⟨Finding.ofFile inPartials ⟨names ++ [name]⟩, ?_, ?_, fun finding hfinding => ?_⟩
  · rw [root.child_below]
    exact ofFile_under root inPartials hne
  · rw [place.child_below]
    exact ofFile_under place inPartials hne
  · have hlocation : finding.location = Location.child ⟨names⟩ name :=
      location_of_mem_ofFile hfinding
    rw [hlocation]
    exact ⟨.file hopens hlisted (reads_of_mem_ofFile hpartials hordinary hfinding), hne⟩

/-- Walks over the entries of a directory come across the same below two roots if they do so below
every directory among the entries. -/
theorem foundAlike_walkEntries {down others : Bool → Location → Id (List Finding)}
    {listing : Listing} (hpartials : inPartials = true → partialsName ∈ names)
    (hopens : tree.Opens names) (hlisted : ∀ entry ∈ listing, tree.Lists names entry)
    (hordinary : names = [] → ∀ entry ∈ listing, isRegistry entry = false)
    (hdown : ∀ inside name, (inside = true → partialsName ∈ names ++ [name]) →
      tree.Opens (names ++ [name]) →
      FoundAlike root place tree (Id.run (down inside (root.below (names ++ [name]))))
        (Id.run (others inside (place.below (names ++ [name]))))) :
    FoundAlike root place tree
      (Id.run (walkEntries (m := Id) down inPartials (root.below names) listing))
      (Id.run (walkEntries (m := Id) others inPartials (place.below names) listing)) := by
  induction listing with
  | nil => exact .nil root place tree
  | cons entry entries ih =>
    rw [List.forall_mem_cons] at hlisted
    rw [run_walkEntries_cons, run_walkEntries_cons]
    refine .append ?_ (ih hlisted.2 fun hnames other hother =>
      hordinary hnames other (List.mem_cons_of_mem _ hother))
    obtain ⟨name, kind⟩ := entry
    cases kind with
    | directory =>
      show FoundAlike root place tree (Id.run (down _ ((root.below names).child name)))
        (Id.run (others _ ((place.below names).child name)))
      rw [root.child_below, place.child_below]
      refine hdown _ name (fun hinside => ?_) (.directory hopens hlisted.1)
      -- One is below a directory of partials from here on, or has been so before.
      rw [Bool.or_eq_true, beq_iff_eq] at hinside
      rcases hinside with hinside | hinside
      · exact List.mem_append_left _ (hpartials hinside)
      · exact List.mem_append_right _ (List.mem_singleton.mpr hinside.symm)
    | file =>
      refine foundAlike_ofFile hpartials (fun hnames hregistry => ?_) hopens hlisted.1
      have hplain := hordinary hnames ⟨name, .file⟩ List.mem_cons_self
      rw [(isRegistry_file name).mpr hregistry] at hplain
      cases hplain

/-- Walks of directories come across the same below two roots. -/
theorem foundAlike_walk (hrelocated : fs.Relocated other root place tree) (levels : Nat)
    (hpartials : inPartials = true → partialsName ∈ names) (hne : names ≠ [])
    (hopens : tree.Opens names) :
    FoundAlike root place tree
      (Id.run (walk (m := Id) fs.listing levels inPartials (root.below names)))
      (Id.run (walk (m := Id) other.listing levels inPartials (place.below names))) := by
  induction levels generalizing inPartials names with
  | zero => exact .nil root place tree
  | succ levels ih =>
    -- Only the directory itself is listed here; its directories are opened, so they are walked
    -- alike.
    obtain ⟨hsame, hlisted⟩ := hrelocated.listing_eq hopens
    rw [run_walk_succ, run_walk_succ, ← hsame]
    cases hlisting : fs.listing (root.below names) with
    | error cause =>
      exact ⟨[.unlistable ⟨names⟩ cause], rfl, rfl, List.forall_mem_singleton.mpr ⟨hopens, hne⟩⟩
    | ok listing =>
      refine foundAlike_walkEntries hpartials hopens
        (fun entry hentry => (hlisted listing hlisting entry).mp hentry)
        (fun hnames => absurd hnames hne) fun inside name hinside hbelow => ?_
      exact ih hinside (by simp) hbelow

/-- The registry is chosen by the names of the files in the root. -/
theorem registryIn_eq_map_under (root : Location) (listing : Listing) :
    registryIn root listing = (registryIn .top listing).map root.under := by
  unfold registryIn
  rw [Option.map_map]
  rfl

/-- The registry that is chosen is the registry of the tree. -/
theorem exists_of_registryIn {listing : Listing}
    (hlisted : ∀ entry, entry ∈ listing ↔ tree.Lists [] entry) {location : Location}
    (hregistry : registryIn .top listing = some location) :
    ∃ name, location = ⟨[name]⟩ ∧ tree.IsRegistry name := by
  have hpresent : ∀ name ∈ Registry.fileNames,
      ((listing.any fun entry => isRegistry entry && entry.name == name) = true ↔
        tree.Lists [] ⟨name, .file⟩) :=
    fun name hname => (any_isRegistry_iff hname).trans (hlisted _)
  obtain ⟨name, hchosen, rfl⟩ := Option.map_eq_some_iff.mp hregistry
  obtain ⟨hname, earlier, later, hnames, hearlier⟩ := List.find?_eq_some_iff_append.mp hchosen
  refine ⟨name, rfl, earlier, later, hnames, (hpresent name (hnames ▸ by simp)).mp hname, ?_⟩
  intro other hother hlists
  have hnone := hearlier other hother
  rw [(hpresent other (hnames ▸ List.mem_append_left _ hother)).mpr hlists] at hnone
  cases hnone

end Scan

namespace FileSystem.Relocated

variable {fs other : FileSystem} {root place : Location} {tree : Tree}

/-- Scans of both roots fail alike, or they find the same below them, all of which is something in
the tree that a load opens. -/
theorem scan (hrelocated : fs.Relocated other root place tree) :
    (∃ cause, Id.run (Scan.scan (m := Id) fs.listing root) = .error cause ∧
      Id.run (Scan.scan (m := Id) other.listing place) = .error cause) ∨
    ∃ findings : Findings, findings.OpenedIn tree ∧
      Id.run (Scan.scan (m := Id) fs.listing root) = .ok (findings.under root) ∧
      Id.run (Scan.scan (m := Id) other.listing place) = .ok (findings.under place) := by
  obtain ⟨hsame, hlisted⟩ := hrelocated.listing_eq .root
  rw [Location.below_nil, Location.below_nil] at hsame
  rw [Location.below_nil] at hlisted
  rw [Scan.scan_eq_scanTo, Scan.scan_eq_scanTo]
  cases hlisting : fs.listing root with
  | error cause =>
    rw [hlisting] at hsame
    exact .inl ⟨cause, by simp only [Scan.scanTo, Id.run, bind, hlisting]; rfl,
      by simp only [Scan.scanTo, Id.run, bind, ← hsame]; rfl⟩
  | ok listing =>
    have hentries := hlisted listing hlisting
    rw [hlisting] at hsame
    -- Both walks go over the same listing, and the registry is taken out of it by its name.
    obtain ⟨told, hfound, hothers, hopened⟩ := @Scan.foundAlike_walkEntries root place tree [] false
      (Scan.walk (m := Id) fs.listing pathLimit) (Scan.walk (m := Id) other.listing pathLimit)
      (listing.filter fun entry => !Scan.isRegistry entry) (by simp) .root
      (fun entry hentry => (hentries entry).mp (List.mem_filter.mp hentry).1)
      (fun _ entry hentry => by simpa using (List.mem_filter.mp hentry).2)
      fun inside name hinside hbelow =>
        Scan.foundAlike_walk hrelocated pathLimit hinside (by simp) hbelow
    rw [Location.below_nil] at hfound hothers
    refine .inr ⟨Scan.collect (Scan.registryIn .top listing) told, ?_, ?_, ?_⟩
    · intro location hlocation
      rcases List.mem_append.mp hlocation with hregistry | hplace
      · obtain ⟨name, rfl, hfirst⟩ :=
          Scan.exists_of_registryIn hentries (Option.mem_toList.mp hregistry)
        have hfile : tree.Lists [] ⟨name, .file⟩ := by
          obtain ⟨-, -, -, hfile, -⟩ := hfirst
          exact hfile
        exact ⟨.file .root hfile (.registry hfirst), by simp⟩
      · have hmem := (Scan.perm_locations_collect (Scan.registryIn .top listing) told).mem_iff.mp
          hplace
        obtain ⟨finding, hfinding, rfl⟩ := List.mem_map.mp hmem
        exact hopened finding hfinding
    · rw [Scan.run_scanTo_of_listing hlisting, Scan.found, hfound, Scan.registryIn_eq_map_under,
        Scan.collect_under]
    · rw [Scan.run_scanTo_of_listing hsame.symm, Scan.found, hothers, Scan.registryIn_eq_map_under,
        Scan.collect_under]

end FileSystem.Relocated

end TemplateCatalog
