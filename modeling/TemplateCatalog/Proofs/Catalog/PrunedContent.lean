import TemplateCatalog.Proofs.Catalog.Discovery
import TemplateCatalog.Proofs.Tree.Pruned

/-!
# What is left of a content tree

A content tree from which documents and partials are taken out still has all others, and the same
directories and the same registry. So a scan of what is left finds what it found before, but for the
files that are missing. All this goes for content trees without links: when a file is taken out, it
is the only one that goes.

The module introduces:

* `FileSystem.LinkFree`: no link stands within a root;
* `FileSystem.IsDirectory`: a directory stands at a proper place.

Main statements:

* `FileSystem.IsDirectory.lists_iff`: what a directory holds is what stands in it.
* `FileSystem.Pruned.hasContent_iff`: the files that are left.
* `FindsContent.pruned`: what a scan finds of what is left.
-/

namespace TemplateCatalog

namespace FileSystem

variable {fs other : FileSystem} {gone : List Location} {root directory : Location} {name : String}

/-- No link stands within the root. -/
def LinkFree (fs : FileSystem) (root : Location) : Prop :=
  ∀ location target, root.isWithin location = true → fs.node? location ≠ some (.link target)

/-- A directory stands at the place, and it has a path. -/
structure IsDirectory (fs : FileSystem) (location : Location) : Prop where
  proper : location.IsProper
  stands : ∃ readable children, fs.node? location = some (.directory readable children)

/-- If all that stands at the top are files, there are no links. -/
theorem linkFree_top_of_files {readable : Bool} {children : List (String × Tree)}
    (htop : fs.node? .top = some (.directory readable children))
    (hfiles : ∀ child ∈ children, ∃ readable bytes, child.2 = .file readable bytes) :
    fs.LinkFree .top := by
  rintro ⟨names⟩ target - hlink
  -- One name leads to a file, and more names lead nowhere.
  have htree : fs.tree = .directory readable children := Option.some.inj htop
  rw [node?, htree] at hlink
  cases names with
  | nil => cases hlink
  | cons name names =>
    rw [Tree.at?, Option.bind_eq_some_iff] at hlink
    obtain ⟨child, hchild, hbelow⟩ := hlink
    obtain ⟨_, _, rfl⟩ := hfiles (name, child) (Pairs.mem_of_lookup hchild)
    cases names <;> cases hbelow

/-- A directory can be listed if its path leads to one that may be. -/
theorem readDirectory_eq_ok_iff {path : Path} {children : List (String × Tree)} :
    fs.readDirectory path = .ok children ↔
      ∃ place, fs.canonicalize path = .ok place ∧
        fs.node? place = some (.directory true children) := by
  unfold readDirectory stat
  cases hplace : fs.canonicalize path with
  | error cause => simp [bind, Except.bind]
  | ok place =>
    cases hnode : fs.node? place with
    | none => simp [bind, Except.bind, hnode]
    | some node =>
      simp only [bind, Except.bind, hnode, Except.ok.injEq, exists_eq_left', Option.some.injEq]
      split <;> simp_all

/-! ### Directories in their places -/

namespace IsDirectory

/-- A directory that can be listed holds what stands in it. -/
theorem lists_iff (hdirectory : fs.IsDirectory directory) (hwf : fs.WellFormed) {node : Tree} :
    fs.Lists directory name node ↔ fs.canonicalize directory.path = .ok directory ∧
      (∃ children, fs.node? directory = some (.directory true children)) ∧
        fs.node? (directory.child name) = some node := by
  obtain ⟨hproper, readable, all, hall⟩ := hdirectory
  constructor
  · rintro ⟨children, hread, hchild⟩
    obtain ⟨hdistinct, -⟩ := hwf.of_readDirectory hread
    obtain ⟨place, hplace, hnode⟩ := readDirectory_eq_ok_iff.mp hread
    -- The path leads nowhere else, since a directory stands at the place, and no link.
    obtain rfl := eq_of_canonicalize_path hproper (stands_of_directory hall) hplace
    refine ⟨hplace, ⟨children, hnode⟩, ?_⟩
    rw [node?_child, hnode]
    exact (Pairs.lookup_eq_some_iff_mem hdistinct).mpr hchild
  · rintro ⟨hplace, ⟨children, hnode⟩, hchild⟩
    rw [node?_child, hnode] at hchild
    exact ⟨children, readDirectory_eq_ok_iff.mpr ⟨directory, hplace, hnode⟩,
      Pairs.mem_of_lookup hchild⟩

/-- A directory in another one is in its place. -/
theorem child (hdirectory : fs.IsDirectory directory) (hwf : fs.WellFormed)
    (hchild : fs.HasDirectory directory name) : fs.IsDirectory (directory.child name) := by
  obtain ⟨readable, children, hlists⟩ := id hchild
  exact ⟨hdirectory.proper.child (hchild.isEntryName hwf), readable, children,
    ((hdirectory.lists_iff hwf).mp hlists).2.2⟩

/-- A chain of directories leads to a directory in its place. -/
theorem below (hdirectory : fs.IsDirectory directory) (hwf : fs.WellFormed) {names : List String}
    (hchain : fs.Descends directory names) : fs.IsDirectory (directory.below names) := by
  induction names generalizing directory with
  | nil => rwa [Location.below_nil]
  | cons name names ih =>
    obtain ⟨-, hfirst, hrest⟩ := descends_cons.mp hchain
    rw [Location.below_cons]
    exact ih (hdirectory.child hwf hfirst) hrest

/-- Where there are no links, the files in a directory are files. -/
theorem hasFile_iff (hdirectory : fs.IsDirectory directory) (hwf : fs.WellFormed)
    (hlinks : fs.LinkFree directory) :
    fs.HasFile directory name ↔ ∃ readable bytes,
      fs.Lists directory name (.file readable bytes) := by
  refine ⟨?_, .inl⟩
  -- A link to a file would count as one, but it would stand within the directory.
  rintro (hfile | ⟨target, readable, bytes, hlink, -⟩)
  · exact hfile
  · exact absurd ((hdirectory.lists_iff hwf).mp hlink).2.2
      (hlinks _ target (directory.isWithin_self_child name))

end IsDirectory

/-- Further down there are no links, either. -/
theorem LinkFree.below (hlinks : fs.LinkFree root) (names : List String) :
    fs.LinkFree (root.below names) := by
  intro location target hwithin
  refine hlinks location target ?_
  rw [Location.isWithin_iff] at hwithin ⊢
  exact (List.prefix_append root.names names).trans hwithin

/-- Where there are no links, a file of the content tree stands at a proper place. -/
theorem HasContent.exists_file (hwf : fs.WellFormed) (hroot : fs.IsDirectory root)
    (hlinks : fs.LinkFree root) {directories : List String} {file : String}
    (hcontent : fs.HasContent root directories file) :
    let location := (root.below directories).child file
    location.IsProper ∧ location.names ≠ [] ∧
      ∃ readable bytes, fs.node? location = some (.file readable bytes) := by
  intro location
  have hdirectory := hroot.below hwf hcontent.chain
  obtain ⟨readable, bytes, hlists⟩ :=
    (hdirectory.hasFile_iff hwf (hlinks.below directories)).mp hcontent.file
  obtain ⟨children, hread, hchild⟩ := id hlists
  exact ⟨hdirectory.proper.child ((hwf.of_readDirectory hread).2 _ hchild),
    by simp [location, Location.child], readable, bytes,
    ((hdirectory.lists_iff hwf).mp hlists).2.2⟩

/-! ### What is left -/

namespace Pruned

section Content

variable (hpruned : fs.Pruned gone other)

include hpruned

/-- There are no links that were not there before. -/
theorem linkFree (hlinks : fs.LinkFree root) : other.LinkFree root := by
  intro location target hwithin hlink
  obtain ⟨-, node, hnode, houtside⟩ := hpruned.exists_node hlink
  cases node <;> cases houtside
  exact hlinks location target hwithin hnode

/-- Directories stay in their places. -/
theorem isDirectory (hdirectory : fs.IsDirectory directory) :
    other.IsDirectory directory ∧ directory ∉ gone := by
  obtain ⟨hproper, readable, children, hnode⟩ := hdirectory
  obtain ⟨others, hseen⟩ := hpruned.directory_iff.mpr ⟨children, hnode⟩
  exact ⟨⟨hproper, readable, others, hseen⟩, (hpruned.exists_node hseen).1⟩

variable (hwf : fs.WellFormed) (hleft : other.WellFormed)

include hwf hleft

/-- The directories in a directory are all kept. -/
theorem hasDirectory_iff (hdirectory : fs.IsDirectory directory) :
    other.HasDirectory directory name ↔ fs.HasDirectory directory name := by
  obtain ⟨hsame, hkept⟩ := hpruned.isDirectory hdirectory
  -- On both sides it comes down to where the path leads and which directories stand where.
  unfold HasDirectory
  simp only [hdirectory.lists_iff hwf, hsame.lists_iff hleft, exists_and_left,
    hpruned.canonicalize_eq_ok_iff, hpruned.directory_iff, hkept, not_false_iff, and_true]

/-- The files in a directory are those that are not missing. -/
theorem hasFile_iff (hdirectory : fs.IsDirectory directory) (hlinks : fs.LinkFree directory) :
    other.HasFile directory name ↔
      fs.HasFile directory name ∧ directory.child name ∉ gone := by
  obtain ⟨hsame, hin⟩ := hpruned.isDirectory hdirectory
  simp only [hdirectory.hasFile_iff hwf hlinks, hsame.hasFile_iff hleft (hpruned.linkFree hlinks),
    hdirectory.lists_iff hwf, hsame.lists_iff hleft, exists_and_left,
    hpruned.canonicalize_eq_ok_iff, hpruned.directory_iff, hin, not_false_iff, and_true]
  constructor
  · rintro ⟨hplace, hlisted, readable, bytes, hseen⟩
    obtain ⟨hkept, node, hnode, houtside⟩ := hpruned.exists_node hseen
    cases node <;> cases houtside
    exact ⟨⟨hplace, hlisted, readable, bytes, hnode⟩, hkept⟩
  · rintro ⟨⟨hplace, hlisted, readable, bytes, hfile⟩, hkept⟩
    exact ⟨hplace, hlisted, readable, bytes, hpruned.node?_eq_file hkept hfile⟩

/-- All chains of directories are kept. -/
theorem descends_iff (hroot : fs.IsDirectory root) {names : List String} :
    other.Descends root names ↔ fs.Descends root names := by
  induction names generalizing root with
  | nil => exact iff_of_true (other.descends_nil root) (fs.descends_nil root)
  | cons name names ih =>
    rw [descends_cons, descends_cons, hpruned.hasDirectory_iff hwf hleft hroot]
    refine and_congr_right fun _ => and_congr_right fun hdirectory => ?_
    exact ih (hroot.child hwf hdirectory)

/-- What belongs to the content tree is what did so before and is not missing. -/
theorem hasContent_iff (hroot : fs.IsDirectory root) (hlinks : fs.LinkFree root)
    {directories : List String} {file : String} :
    other.HasContent root directories file ↔ fs.HasContent root directories file ∧
      (root.below directories).child file ∉ gone := by
  -- The chain leads to the same directory in both, and there the file is looked for.
  have hlast : fs.Descends root directories → (other.HasFile (root.below directories) file ↔
      fs.HasFile (root.below directories) file ∧ (root.below directories).child file ∉ gone) :=
    fun hchain =>
      hpruned.hasFile_iff hwf hleft (hroot.below hwf hchain) (hlinks.below directories)
  constructor
  · rintro ⟨hchain, hvisible, hfile⟩
    have hchain := (hpruned.descends_iff hwf hleft hroot).mp hchain
    obtain ⟨hfile, hkept⟩ := (hlast hchain).mp hfile
    exact ⟨⟨hchain, hvisible, hfile⟩, hkept⟩
  · rintro ⟨⟨hchain, hvisible, hfile⟩, hkept⟩
    exact ⟨(hpruned.descends_iff hwf hleft hroot).mpr hchain, hvisible,
      (hlast hchain).mpr ⟨hfile, hkept⟩⟩

end Content

end Pruned

end FileSystem

namespace FindsContent

variable {fs other : FileSystem} {root : Location} {findings again : Findings}
  {gone : List Location}

/-- There is one way only to put the documents of a content tree in order. -/
theorem documents_unique (hfinds : FindsContent fs root findings)
    (hagain : FindsContent fs root again) : again.documents = findings.documents := by
  refine Location.eq_of_ascending hagain.documents_ascending hfinds.documents_ascending
    fun location => ?_
  rw [hagain.mem_documents, hfinds.mem_documents]

/-- Where there are no links, the documents and partials that are found are files at proper
places. -/
theorem exists_file (hfinds : FindsContent fs root findings) (hwf : fs.WellFormed)
    (hroot : fs.IsDirectory root) (hlinks : fs.LinkFree root) {location : Location}
    (hlocation : location ∈ findings.documents ∨ location ∈ findings.partials) :
    location.IsProper ∧ location.names ≠ [] ∧
      ∃ readable bytes, fs.node? location = some (.file readable bytes) := by
  rcases hlocation with hdocument | hpartial
  · obtain ⟨directories, file, rfl, hcontent, -⟩ := (hfinds.mem_documents location).mp hdocument
    exact hcontent.exists_file hwf hroot hlinks
  · obtain ⟨directories, file, rfl, hcontent, -⟩ := (hfinds.mem_partials location).mp hpartial
    exact hcontent.exists_file hwf hroot hlinks

/-- A file that may be the registry is no document and no partial. -/
theorem registry_apart (hfinds : FindsContent fs root findings) {name : String}
    (hname : name ∈ ["registry.yaml", "registry.yml", "registry.json"]) :
    root.child name ∉ findings.documents ∧ root.child name ∉ findings.partials := by
  have hdirect : ∀ directories file, root.child name = (root.below directories).child file →
      directories = [] ∧ file = name := by
    intro directories file hsame
    simp only [Location.child, Location.below, Location.mk.injEq, List.append_assoc,
      List.append_cancel_left_eq] at hsame
    -- One name alone is all there is below the root.
    rw [eq_comm, List.append_eq_singleton_iff] at hsame
    simpa using hsame
  constructor
  · intro hmem
    obtain ⟨directories, file, hsame, -, -, -, hnew⟩ := (hfinds.mem_documents _).mp hmem
    obtain ⟨rfl, rfl⟩ := hdirect directories file hsame
    exact hnew ⟨rfl, hname⟩
  · intro hmem
    obtain ⟨directories, file, hsame, -, hin⟩ := (hfinds.mem_partials _).mp hmem
    obtain ⟨rfl, rfl⟩ := hdirect directories file hsame
    cases hin

/-- When documents and partials are taken out, the others are found as before, and so are the
registry and the directories that cannot be listed. -/
theorem pruned (hfinds : FindsContent fs root findings) (hagain : FindsContent other root again)
    (hpruned : fs.Pruned gone other) (hwf : fs.WellFormed) (hleft : other.WellFormed)
    (hroot : fs.IsDirectory root) (hlinks : fs.LinkFree root)
    (hlisted : ∃ children, other.readDirectory root.path = .ok children)
    (hgone : ∀ location ∈ gone, location ∈ findings.documents ∨ location ∈ findings.partials) :
    again.documents = findings.documents.filter (· ∉ gone) ∧
      again.partials = findings.partials.filter (· ∉ gone) ∧
      again.registry = findings.registry ∧
      ∀ failure ∈ again.failures, failure ∈ findings.failures := by
  have hcontent : ∀ {directories : List String} {file : String},
      other.HasContent root directories file ↔ fs.HasContent root directories file ∧
        (root.below directories).child file ∉ gone :=
    hpruned.hasContent_iff hwf hleft hroot hlinks
  refine ⟨?_, ?_, ?_, ?_⟩
  -- Both sides are in ascending order, so it is enough that they have the same members.
  · refine Location.eq_of_ascending hagain.documents_ascending
      (hfinds.documents_ascending.sublist List.filter_sublist) fun location => ?_
    rw [hagain.mem_documents, List.mem_filter, hfinds.mem_documents, decide_eq_true_eq]
    simp only [hcontent]
    constructor
    · rintro ⟨directories, file, rfl, ⟨hfile, hkept⟩, hrest⟩
      exact ⟨⟨directories, file, rfl, hfile, hrest⟩, hkept⟩
    · rintro ⟨⟨directories, file, rfl, hfile, hrest⟩, hkept⟩
      exact ⟨directories, file, rfl, ⟨hfile, hkept⟩, hrest⟩
  · refine Location.eq_of_ascending hagain.partials_ascending
      (hfinds.partials_ascending.sublist List.filter_sublist) fun location => ?_
    rw [hagain.mem_partials, List.mem_filter, hfinds.mem_partials, decide_eq_true_eq]
    simp only [hcontent]
    constructor
    · rintro ⟨directories, file, rfl, ⟨hfile, hkept⟩, hin⟩
      exact ⟨⟨directories, file, rfl, hfile, hin⟩, hkept⟩
    · rintro ⟨⟨directories, file, rfl, hfile, hin⟩, hkept⟩
      exact ⟨directories, file, rfl, ⟨hfile, hkept⟩, hin⟩
  · -- No file that may be the registry is taken out.
    have hregistry : ∀ name ∈ ["registry.yaml", "registry.yml", "registry.json"],
        (other.HasContent root [] name ↔ fs.HasContent root [] name) := by
      intro name hname
      rw [hcontent, Location.below_nil, and_iff_left]
      intro hmem
      obtain ⟨hdocument, hpartial⟩ := hfinds.registry_apart hname
      rcases hgone _ hmem with hmem | hmem
      · exact hdocument hmem
      · exact hpartial hmem
    refine Option.ext fun location => ?_
    rw [hagain.registry, hfinds.registry]
    refine exists_congr fun earlier => exists_congr fun name => exists_congr fun later =>
      and_congr_right fun hnames => and_congr_right fun _ => ?_
    rw [hregistry name (hnames ▸ by simp)]
    refine and_congr_right fun _ => forall₂_congr fun before hbefore => ?_
    rw [hregistry before (hnames ▸ List.mem_append_left _ hbefore)]
  · rintro ⟨directory, cause⟩ hfailure
    obtain ⟨directories, rfl, hchain, hcause⟩ := (hagain.mem_failures _ _).mp hfailure
    have hbefore := (hpruned.descends_iff hwf hleft hroot).mp hchain
    refine (hfinds.mem_failures _ _).mpr ⟨directories, rfl, hbefore, ?_⟩
    obtain ⟨hproper, readable, children, hnode⟩ := hroot.below hwf hbefore
    rcases List.eq_nil_or_concat directories with rfl | ⟨outer, last, rfl⟩
    · -- The root itself can be listed.
      obtain ⟨others, hothers⟩ := hlisted
      rw [Location.below_nil, hothers] at hcause
      cases hcause
    · exact hpruned.readDirectory_path hproper (by simp [Location.below])
        (FileSystem.stands_of_directory hnode)
        (hpruned.isDirectory ⟨hproper, readable, children, hnode⟩).2 hcause

end FindsContent

end TemplateCatalog
