import TemplateCatalog.Proofs.Catalog.FileName
import TemplateCatalog.Proofs.Tree.Canonical

/-!
# The content tree

A file belongs to the content tree below a root if a chain of visible directories leads to it from
there, none of them a link. Since no link to a directory is followed, the paths of the directories
in a chain get longer and longer, so there is an end to every chain, whatever the links are.

The module introduces:

* `FileSystem.HasDirectory`, `FileSystem.HasFile`: what a directory holds;
* `FileSystem.Descends`: a chain of directories leads down from a directory;
* `FileSystem.HasContent`: a file belongs to the content tree below a root.

Main statements:

* `FileSystem.mem_listing_directory`, `FileSystem.mem_listing_file`: what a listing says of what a
  directory holds.
* `FileSystem.Descends.length_lt`: chains of directories are shorter than paths can be.
-/

namespace TemplateCatalog

/-- The place that a chain of names leads to from a location. -/
def Location.below (location : Location) (names : List String) : Location :=
  ⟨location.names ++ names⟩

@[simp] theorem Location.below_nil (location : Location) : location.below [] = location := by
  simp [below]

@[simp] theorem Location.below_cons (location : Location) (name : String) (names : List String) :
    location.below (name :: names) = (location.child name).below names := by
  simp [below, child]

/-- The path of what lies below a location has two characters at least for every name on the way. -/
theorem Location.two_mul_length_le (location : Location) {names : List String}
    (hnames : ∀ name ∈ names, name ≠ "") :
    2 * names.length ≤ (location.below names).text.utf8ByteSize := by
  -- What comes before makes the text longer, and every name below adds a slash and a character.
  have hjoin : ∀ before names : List String, (∀ name ∈ names, name ≠ "") →
      2 * names.length ≤
        (String.join ((before ++ names).map fun name => "/" ++ name)).utf8ByteSize := by
    intro before names hnames
    induction before with
    | cons name before ih =>
      rw [List.cons_append, List.map_cons, String.join_cons, String.utf8ByteSize_append]
      omega
    | nil =>
      rw [List.nil_append]
      induction names with
      | nil => simp
      | cons name names ih =>
        have hrest := ih fun other hother => hnames other (List.mem_cons_of_mem _ hother)
        have hslash : "/".utf8ByteSize = 1 := by decide
        have hname : name.utf8ByteSize ≠ 0 := fun hzero =>
          hnames name List.mem_cons_self (String.utf8ByteSize_eq_zero_iff.mp hzero)
        rw [List.map_cons, String.join_cons, String.utf8ByteSize_append,
          String.utf8ByteSize_append, List.length_cons]
        omega
  unfold text
  split
  · next hempty =>
    have hnone : names = [] := (List.append_eq_nil_iff.mp (List.isEmpty_iff.mp hempty)).2
    simp [hnone]
  · exact hjoin location.names names hnames

namespace FileSystem

variable {fs : FileSystem} {directory : Location} {name : String}

/-! ### What directories hold -/

/-- The directory at a location can be listed and holds the node under the name. -/
def Lists (fs : FileSystem) (directory : Location) (name : String) (node : Tree) : Prop :=
  ∃ children, fs.readDirectory directory.path = .ok children ∧ (name, node) ∈ children

/-- The directory at a location can be listed and holds a directory under the name, not a link. -/
def HasDirectory (fs : FileSystem) (directory : Location) (name : String) : Prop :=
  ∃ readable children, fs.Lists directory name (.directory readable children)

/-- The directory at a location can be listed and holds a file or a link to one under the name. -/
def HasFile (fs : FileSystem) (directory : Location) (name : String) : Prop :=
  (∃ readable bytes, fs.Lists directory name (.file readable bytes)) ∨
    ∃ target readable bytes, fs.Lists directory name (.link target) ∧
      fs.stat (directory.child name).path = .ok (.file readable bytes)

theorem HasDirectory.exists_children (hdirectory : fs.HasDirectory directory name) :
    ∃ children, fs.readDirectory directory.path = .ok children := by
  obtain ⟨-, -, children, hread, -⟩ := hdirectory
  exact ⟨children, hread⟩

theorem HasFile.exists_children (hfile : fs.HasFile directory name) :
    ∃ children, fs.readDirectory directory.path = .ok children := by
  rcases hfile with ⟨-, -, children, hread, -⟩ | ⟨-, -, -, ⟨children, hread, -⟩, -⟩
  · exact ⟨children, hread⟩
  · exact ⟨children, hread⟩

theorem listing_eq_error_iff {cause : IoError} :
    fs.listing directory = .error cause ↔ fs.readDirectory directory.path = .error cause := by
  unfold listing
  cases fs.readDirectory directory.path <;> simp [bind, Except.bind, pure, Except.pure]

/-- A listing has an entry for every visible child that counts. -/
theorem mem_listing_iff_lists {listing : Listing} (hlisting : fs.listing directory = .ok listing)
    (kind : EntryKind) :
    ⟨name, kind⟩ ∈ listing ↔ IsVisibleName name ∧
      ∃ node, fs.Lists directory name node ∧
        fs.entryKind? (directory.child name) node = some kind := by
  cases hread : fs.readDirectory directory.path with
  | error cause => simp [listing_eq_error_iff.mpr hread] at hlisting
  | ok children =>
    rw [mem_listing_iff _ hread hlisting, ← isHiddenName_eq_false_iff]
    constructor
    · rintro ⟨⟨other, node⟩, hchild, hentry⟩
      obtain rfl := name_of_entryOf hentry
      unfold entryOf at hentry
      split at hentry
      · cases hentry
      · next hvisible =>
        obtain ⟨found, hkind, hsame⟩ := Option.map_eq_some_iff.mp hentry
        cases hsame
        exact ⟨by simpa using hvisible, node, ⟨children, hread, hchild⟩, hkind⟩
    · rintro ⟨hvisible, node, ⟨others, hothers, hchild⟩, hkind⟩
      rw [hread, Except.ok.injEq] at hothers
      subst hothers
      exact ⟨(name, node), hchild, by simp [entryOf, hvisible, hkind]⟩

theorem mem_listing_directory {listing : Listing} (hlisting : fs.listing directory = .ok listing) :
    ⟨name, .directory⟩ ∈ listing ↔ IsVisibleName name ∧ fs.HasDirectory directory name := by
  rw [mem_listing_iff_lists hlisting]
  refine and_congr_right fun _ => ⟨?_, ?_⟩
  · rintro ⟨node, hnode, hkind⟩
    cases node with
    | file | special => cases hkind
    | directory readable children => exact ⟨readable, children, hnode⟩
    | link target =>
      -- No link counts as a directory.
      simp only [entryKind?] at hkind
      split at hkind <;> cases hkind
  · rintro ⟨readable, children, hnode⟩
    exact ⟨_, hnode, rfl⟩

theorem mem_listing_file {listing : Listing} (hlisting : fs.listing directory = .ok listing) :
    ⟨name, .file⟩ ∈ listing ↔ IsVisibleName name ∧ fs.HasFile directory name := by
  rw [mem_listing_iff_lists hlisting]
  refine and_congr_right fun _ => ⟨?_, ?_⟩
  · rintro ⟨node, hnode, hkind⟩
    cases node with
    | file readable bytes => exact .inl ⟨readable, bytes, hnode⟩
    | directory | special => cases hkind
    | link target =>
      simp only [entryKind?] at hkind
      split at hkind
      · next readable bytes hstat => exact .inr ⟨target, readable, bytes, hnode, hstat⟩
      · cases hkind
  · rintro (⟨readable, bytes, hnode⟩ | ⟨target, readable, bytes, hnode, hstat⟩)
    · exact ⟨_, hnode, rfl⟩
    · exact ⟨_, hnode, by simp [entryKind?, hstat]⟩

/-! ### Chains of directories -/

/-- Each of the names is that of a visible directory, not a link, in the directory that the names
before it lead to. -/
def Descends (fs : FileSystem) (directory : Location) (names : List String) : Prop :=
  ∀ before name after, names = before ++ name :: after →
    IsVisibleName name ∧ fs.HasDirectory (directory.below before) name

theorem descends_nil (fs : FileSystem) (directory : Location) : fs.Descends directory [] := by
  intro before name after hnames
  simp at hnames

/-- A chain is a first directory and a chain from there. -/
theorem descends_cons {names : List String} :
    fs.Descends directory (name :: names) ↔
      IsVisibleName name ∧ fs.HasDirectory directory name ∧
        fs.Descends (directory.child name) names := by
  constructor
  · intro hchain
    obtain ⟨hvisible, hdirectory⟩ := hchain [] name names rfl
    rw [Location.below_nil] at hdirectory
    refine ⟨hvisible, hdirectory, fun before other after hnames => ?_⟩
    rw [← Location.below_cons]
    exact hchain (name :: before) other after (congrArg (name :: ·) hnames)
  · rintro ⟨hvisible, hdirectory, hrest⟩ before other after hnames
    cases before with
    | nil =>
      obtain ⟨rfl, -⟩ := List.cons.inj hnames
      exact ⟨hvisible, by rwa [Location.below_nil]⟩
    | cons first before =>
      obtain ⟨rfl, htail⟩ := List.cons.inj hnames
      rw [Location.below_cons]
      exact hrest before other after htail

/-- What can be listed has a path that is not too long. -/
theorem size_le_of_readDirectory {children : List (String × Tree)}
    (hread : fs.readDirectory directory.path = .ok children) :
    directory.text.utf8ByteSize ≤ pathLimit := by
  by_contra hlong
  -- No path that is too long leads anywhere, whichever check it fails first.
  have hcanonical : ∃ cause, fs.canonicalize directory.path = .error cause := by
    unfold canonicalize
    split
    · exact ⟨_, rfl⟩
    · split
      · exact ⟨_, rfl⟩
      · exact ⟨_, if_pos (Nat.not_le.mp hlong)⟩
  obtain ⟨cause, hcause⟩ := hcanonical
  simp [readDirectory, stat, hcause, bind, Except.bind] at hread

theorem HasDirectory.isEntryName (hwf : fs.WellFormed)
    (hdirectory : fs.HasDirectory directory name) : IsEntryName name := by
  obtain ⟨readable, below, children, hread, hchild⟩ := hdirectory
  exact (hwf.of_readDirectory hread).2 _ hchild

/-- Chains of directories are shorter than paths can be. -/
theorem Descends.length_lt (hwf : fs.WellFormed) {names : List String}
    (hchain : fs.Descends directory names) : names.length < pathLimit := by
  rcases List.eq_nil_or_concat names with rfl | ⟨before, last, rfl⟩
  · decide
  · -- The last directory lies in one that can be listed, so the path of that one is not too long.
    obtain ⟨children, hread⟩ := (hchain before last [] (by simp)).2.exists_children
    have hbefore : ∀ name ∈ before, name ≠ "" := by
      intro name hname
      obtain ⟨earlier, later, rfl⟩ := List.append_of_mem hname
      exact ((hchain earlier name (later ++ [last]) (by simp)).2.isEntryName hwf).ne_empty
    have hlength := Nat.le_trans (directory.two_mul_length_le hbefore)
      (size_le_of_readDirectory hread)
    simp only [pathLimit, List.length_concat] at hlength ⊢
    omega

/-- The file belongs to the content tree below a root: visible directories lead to it, none of them
a link, and it is visible itself. -/
structure HasContent (fs : FileSystem) (root : Location) (directories : List String)
    (file : String) : Prop where
  chain : fs.Descends root directories
  visible : IsVisibleName file
  file : fs.HasFile (root.below directories) file

end FileSystem

end TemplateCatalog
