import Mathlib.Algebra.GroupWithZero.Nat
import TemplateCatalog.Proofs.Catalog.ContentTree

/-!
# Trees without links

In a tree without links everything is where it seems to be. What stands in such a tree is found
below any root that the tree stands at, and its directories are listed child by child. Only a path
that is too long for the system is turned away, however little of it is in the tree.

The module introduces:

* `Location.IsReachable`: the path of a place is not too long;
* `Tree.LinkFree`: no link stands anywhere in a tree;
* `FileSystem.Carries`: a tree stands below a root;
* `plainEntry?`: what a child counts as that is no link;
* `Tree.nest`, `FileSystem.nested`: a tree at the end of a chain of directories that hold nothing
  else.

Main statements:

* `Location.utf8ByteSize_text`: how long a path is.
* `FileSystem.Carries.below`, `FileSystem.Carries.stat_eq`, `FileSystem.Carries.listing_eq`: what is
  found at a root and below it.
* `FileSystem.carries_nested`: trees at the end of a chain can be found there.
-/

namespace TemplateCatalog

/-! ### Paths that are not too long -/

/-- The path of the location is not too long for the system. -/
def Location.IsReachable (location : Location) : Prop :=
  location.text.utf8ByteSize ≤ pathLimit

instance (location : Location) : Decidable location.IsReachable :=
  inferInstanceAs (Decidable (location.text.utf8ByteSize ≤ pathLimit))

/-- The text of a location has a slash for every name. -/
theorem Location.utf8ByteSize_text {location : Location} (hne : location.names ≠ []) :
    location.text.utf8ByteSize =
      (location.names.map fun name => name.utf8ByteSize + 1).sum := by
  have hjoin : ∀ names : List String,
      (String.join (names.map fun name => "/" ++ name)).utf8ByteSize =
        (names.map fun name => name.utf8ByteSize + 1).sum := by
    intro names
    have hslash : "/".utf8ByteSize = 1 := by decide
    induction names with
    | nil => rfl
    | cons name names ih =>
      rw [List.map_cons, String.join_cons, String.utf8ByteSize_append, String.utf8ByteSize_append,
        ih, List.map_cons, List.sum_cons]
      omega
  rw [text, if_neg (by simpa using hne)]
  exact hjoin location.names

/-! ### Trees without links -/

namespace Tree

variable {tree node : Tree} {names : List String}

/-- No link stands anywhere in the tree. -/
def LinkFree (tree : Tree) : Prop :=
  ∀ names target, tree.at? names ≠ some (.link target)

theorem LinkFree.ne_link (hlinks : tree.LinkFree) (hnode : tree.at? names = some node)
    (target : Path) : node ≠ .link target :=
  fun hlink => hlinks names target (hlink ▸ hnode)

theorem linkFree_file (readable : Bool) (bytes : ByteArray) : (file readable bytes).LinkFree := by
  intro names target hlink
  cases names <;> cases hlink

/-- A directory has no links if nothing that it holds has any. -/
theorem linkFree_directory (readable : Bool) {children : List (String × Tree)}
    (hchildren : ∀ child ∈ children, child.2.LinkFree) :
    (directory readable children).LinkFree := by
  intro names target hlink
  cases names with
  | nil => cases hlink
  | cons name names =>
    rw [at?, Option.bind_eq_some_iff] at hlink
    obtain ⟨child, hchild, hbelow⟩ := hlink
    exact hchildren _ (Pairs.mem_of_lookup hchild) names target hbelow

theorem wellFormed_empty : empty.WellFormed :=
  .directory true .nil (fun _ hchild => absurd hchild List.not_mem_nil) fun _ hchild =>
    absurd hchild List.not_mem_nil

theorem linkFree_empty : empty.LinkFree :=
  linkFree_directory true fun _ hchild => absurd hchild List.not_mem_nil

/-- What stands in a directory of files is one of the files, if it is not the directory itself. -/
theorem names_of_at?_of_files {readable : Bool} {children : List (String × Tree)}
    (hfiles : ∀ child ∈ children, ∃ readable bytes, child.2 = .file readable bytes)
    (hnode : (directory readable children).at? names = some node) :
    names = [] ∨ ∃ child ∈ children, names = [child.1] := by
  cases names with
  | nil => exact .inl rfl
  | cons name names =>
    rw [at?, Option.bind_eq_some_iff] at hnode
    obtain ⟨child, hchild, hbelow⟩ := hnode
    have hmem := Pairs.mem_of_lookup hchild
    obtain ⟨_, _, rfl⟩ := hfiles _ hmem
    cases names with
    | nil => exact .inr ⟨_, hmem, rfl⟩
    | cons name names => cases hbelow

/-- The names on the way to something in a well-formed tree are names of entries. -/
theorem WellFormed.isEntryName_of_at? (hwf : tree.WellFormed) (hnode : tree.at? names = some node) :
    ∀ name ∈ names, IsEntryName name := by
  induction names generalizing tree with
  | nil => simp
  | cons name names ih =>
    rw [at?, Option.bind_eq_some_iff] at hnode
    obtain ⟨child, hchild, hnode⟩ := hnode
    cases hwf with
    | file | link | special => cases hchild
    | directory readable hdistinct hnames hbelow =>
      have hmem := Pairs.mem_of_lookup hchild
      exact List.forall_mem_cons.mpr ⟨hnames _ hmem, ih (hbelow _ hmem) hnode⟩

/-- What a directory in a tree holds stands in the tree, too. -/
theorem WellFormed.at?_child (hwf : tree.WellFormed) {readable : Bool}
    {children : List (String × Tree)} (hnode : tree.at? names = some (.directory readable children))
    {child : String × Tree} (hchild : child ∈ children) :
    tree.at? (names ++ [child.1]) = some child.2 := by
  have hlookup : children.lookup child.1 = some child.2 := by
    cases hwf.of_at? hnode with
    | directory _ hdistinct _ _ => exact (Pairs.lookup_eq_some_iff_mem hdistinct).mpr hchild
  rw [at?_append, hnode]
  simp [at?, child?, hlookup]

end Tree

namespace FileSystem

variable {fs : FileSystem} {root : Location} {tree node : Tree} {names : List String}

/-- A directory stands at the top if any path leads anywhere. -/
theorem exists_top_of_canonicalize {path : Path} {location : Location}
    (hcanonical : fs.canonicalize path = .ok location) :
    ∃ readable children, fs.node? .top = some (.directory readable children) := by
  have hwalk := walk_of_canonicalize hcanonical
  -- The walk starts at a directory, and whatever is not at the top is in one.
  obtain ⟨start, readable, children, hstart⟩ : ∃ start readable children,
      fs.node? start = some (.directory readable children) := by
    obtain ⟨part, parts, hparts⟩ := List.exists_cons_of_ne_nil path.parts_ne_nil
    rw [hparts, walk] at hwalk
    split at hwalk
    · next hnode => exact ⟨_, _, _, hnode⟩
    · cases hwalk
    · cases hwalk
  show ∃ readable children, some fs.tree = some (.directory readable children)
  obtain ⟨names⟩ := start
  cases names with
  | nil => exact ⟨readable, children, hstart⟩
  | cons name names =>
    rw [node?, Tree.at?, Option.bind_eq_some_iff] at hstart
    obtain ⟨child, hchild, -⟩ := hstart
    cases htree : fs.tree with
    | directory readable children => exact ⟨readable, children, rfl⟩
    | file | link | special => simp [htree, Tree.child?] at hchild

/-- The tree stands below the root, at a proper place. -/
structure Carries (fs : FileSystem) (root : Location) (tree : Tree) : Prop where
  stands : fs.node? root = some tree
  proper : root.IsProper
  top : ∃ readable children, fs.node? .top = some (.directory readable children)

namespace Carries

/-- What stands in the tree stands below the root. -/
theorem below (hcarries : fs.Carries root tree) (hwf : tree.WellFormed)
    (hnode : tree.at? names = some node) : fs.Carries (root.below names) node where
  stands := by
    have hstands := hcarries.stands
    rw [node?] at hstands
    rw [node?, Location.below, Tree.at?_append, hstands, Option.bind_some, hnode]
  proper name hname := (List.mem_append.mp hname).elim (hcarries.proper name)
    (hwf.isEntryName_of_at? hnode name)
  top := hcarries.top

/-- The path of the root leads to it. -/
theorem canonicalize (hcarries : fs.Carries root tree) (hlink : ∀ target, tree ≠ .link target)
    (hreach : root.IsReachable) : fs.canonicalize root.path = .ok root := by
  by_cases hne : root.names = []
  · -- The path of the top has no names, but a directory stands there.
    obtain ⟨readable, children, htop⟩ := hcarries.top
    have hsame : root = .top := congrArg Location.mk hne
    rw [hsame]
    exact canonicalize_path_top htop
  · exact canonicalize_path hcarries.proper hne ⟨tree, hcarries.stands, hlink⟩ hreach

/-- The tree is found under the path of the root, unless that is too long. -/
theorem stat_eq (hcarries : fs.Carries root tree) (hlink : ∀ target, tree ≠ .link target) :
    fs.stat root.path = if root.IsReachable then .ok tree else .error .nameTooLong := by
  split
  · next hreach =>
    simp only [stat, hcarries.canonicalize hlink hreach, bind, Except.bind, hcarries.stands]
  · next hlong =>
    rw [Location.IsReachable, Nat.not_le] at hlong
    simp [stat, canonicalize_path_eq_ite hcarries.proper, hlong, bind, Except.bind]

end Carries

/-- The entry that a child makes, unless it is hidden. -/
def plainEntry? (child : String × Tree) : Option ListingEntry :=
  if isHiddenName child.1 then none
  else
    match child.2 with
    | .directory .. => some ⟨child.1, .directory⟩
    | .file .. => some ⟨child.1, .file⟩
    | .link _ | .special => none

/-- What a child counts as does not depend on where it stands, unless it is a link. -/
theorem entryOf_eq_plainEntry? (fs : FileSystem) (directory : Location) {child : String × Tree}
    (hlink : ∀ target, child.2 ≠ .link target) :
    fs.entryOf directory child = plainEntry? child := by
  obtain ⟨name, node⟩ := child
  unfold entryOf plainEntry?
  cases node with
  | directory | file | special => rfl
  | link target => exact absurd rfl (hlink target)

/-- A directory without links has the listing of its children. -/
theorem listing_of_readDirectory {directory : Location} {children : List (String × Tree)}
    (hread : fs.readDirectory directory.path = .ok children)
    (hlinks : ∀ child ∈ children, ∀ target, child.2 ≠ .link target) :
    fs.listing directory = .ok ((children.filterMap plainEntry?).mergeSort ListingEntry.le) := by
  have hentries : children.filterMap (fs.entryOf directory) = children.filterMap plainEntry? :=
    List.filterMap_congr fun child hchild =>
      fs.entryOf_eq_plainEntry? directory (hlinks child hchild)
  simp only [listing, hread, bind, Except.bind, pure, Except.pure, hentries]

/-- A directory without links is listed child by child, unless its path is too long. -/
theorem Carries.listing_eq {children : List (String × Tree)}
    (hcarries : fs.Carries root (.directory true children))
    (hlinks : ∀ child ∈ children, ∀ target, child.2 ≠ .link target) :
    fs.listing root =
      if root.IsReachable then .ok ((children.filterMap plainEntry?).mergeSort ListingEntry.le)
      else .error .nameTooLong := by
  have hstat := hcarries.stat_eq (by simp)
  split
  · next hreach =>
    rw [if_pos hreach] at hstat
    have hread : fs.readDirectory root.path = .ok children := by
      simp only [readDirectory, hstat, bind, Except.bind]
    exact listing_of_readDirectory hread hlinks
  · next hlong =>
    rw [if_neg hlong] at hstat
    simp only [listing, readDirectory, hstat, bind, Except.bind]

end FileSystem

/-! ### Trees at the end of a chain -/

namespace Tree

/-- The tree at the end of a chain of directories that hold nothing else. -/
def nest (tree : Tree) : List String → Tree
  | [] => tree
  | name :: names => .directory true [(name, nest tree names)]

variable {tree : Tree} {names : List String}

/-- The tree stands at the end of the chain. -/
theorem at?_nest (tree : Tree) (names : List String) : (tree.nest names).at? names = some tree := by
  induction names with
  | nil => rfl
  | cons name names ih => simp [nest, at?, child?, ih]

theorem WellFormed.nest (hwf : tree.WellFormed) (hnames : ∀ name ∈ names, IsEntryName name) :
    (tree.nest names).WellFormed := by
  induction names with
  | nil => exact hwf
  | cons name names ih =>
    rw [List.forall_mem_cons] at hnames
    refine .directory true (List.nodup_singleton _) ?_ ?_
    · exact List.forall_mem_singleton.mpr hnames.1
    · exact List.forall_mem_singleton.mpr (ih hnames.2)

theorem LinkFree.nest (hlinks : tree.LinkFree) (names : List String) :
    (tree.nest names).LinkFree := by
  induction names with
  | nil => exact hlinks
  | cons name names ih => exact linkFree_directory true (List.forall_mem_singleton.mpr ih)

end Tree

namespace FileSystem

variable {root : Location} {tree : Tree}

/-- A file system with nothing but a tree at a place. -/
def nested (root : Location) (tree : Tree) : FileSystem :=
  ⟨tree.nest root.names, .top⟩

theorem wellFormed_nested (hroot : root.IsProper) (hwf : tree.WellFormed) :
    (nested root tree).WellFormed :=
  ⟨hwf.nest hroot, Location.isProper_top⟩

/-- Below a root that is not the top, the tree is carried. -/
theorem carries_nested (hroot : root.IsProper) (hne : root.names ≠ []) (tree : Tree) :
    (nested root tree).Carries root tree where
  stands := tree.at?_nest root.names
  proper := hroot
  top := by
    obtain ⟨name, names, hnames⟩ := List.exists_cons_of_ne_nil hne
    refine ⟨true, [(name, tree.nest names)], ?_⟩
    show some (tree.nest root.names) = _
    rw [hnames, Tree.nest]

end FileSystem

end TemplateCatalog
