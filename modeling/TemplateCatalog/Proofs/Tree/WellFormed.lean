import TemplateCatalog.Catalog.Listing
import TemplateCatalog.Proofs.Pairs

/-!
# Well-formed file trees

What every file system promises about the names of its entries: a name is one part of a path, never
one of the parts `.` and `..`, and no two entries of a directory share a name. A `Tree` as such is
free to break these promises, so they are stated here as `FileSystem.WellFormed`.

Main statements:

* `Tree.WellFormed.of_at?`: what stands below a well-formed tree is well formed.
* `FileSystem.WellFormed.isProper_of_listing`: the entries of a listing have proper names, no two of
  them the same.
-/

namespace TemplateCatalog

/-- A text that can be the name of a directory entry. -/
structure IsEntryName (name : String) : Prop where
  ne_empty : name ≠ ""
  ne_dot : name ≠ "."
  ne_dots : name ≠ ".."
  no_slash : '/' ∉ name.toList
  no_nul : '\x00' ∉ name.toList
  size_le : name.utf8ByteSize ≤ nameLimit

instance (name : String) : Decidable (IsEntryName name) :=
  decidable_of_iff
    (name ≠ "" ∧ name ≠ "." ∧ name ≠ ".." ∧ '/' ∉ name.toList ∧ '\x00' ∉ name.toList ∧
      name.utf8ByteSize ≤ nameLimit)
    ⟨fun ⟨h₁, h₂, h₃, h₄, h₅, h₆⟩ => ⟨h₁, h₂, h₃, h₄, h₅, h₆⟩,
      fun h => ⟨h.ne_empty, h.ne_dot, h.ne_dots, h.no_slash, h.no_nul, h.size_le⟩⟩

/-- Every name on the way to the location can be the name of an entry. -/
def Location.IsProper (location : Location) : Prop :=
  ∀ name ∈ location.names, IsEntryName name

instance (location : Location) : Decidable location.IsProper :=
  inferInstanceAs (Decidable (∀ name ∈ location.names, IsEntryName name))

namespace Location

theorem isProper_top : top.IsProper := by
  simp [IsProper, top]

/-- The child of a proper location is proper if its name is. -/
theorem IsProper.child {location : Location} {name : String} (hproper : location.IsProper)
    (hname : IsEntryName name) : (location.child name).IsProper := by
  intro other hother
  rcases List.mem_append.mp hother with hother | hother
  · exact hproper other hother
  · rwa [List.mem_singleton.mp hother]

/-- The parent of a proper location is proper. -/
theorem IsProper.parent {location : Location} (hproper : location.IsProper) :
    location.parent.IsProper :=
  fun name hname => hproper name (List.dropLast_subset _ hname)

end Location

/-- The names in every directory of the tree can be names of entries and are distinct. -/
inductive Tree.WellFormed : Tree → Prop
  | file (readable : Bool) (bytes : ByteArray) : WellFormed (.file readable bytes)
  | directory (readable : Bool) {children : List (String × Tree)}
      (hdistinct : (children.map Prod.fst).Nodup)
      (hnames : ∀ child ∈ children, IsEntryName child.1)
      (hbelow : ∀ child ∈ children, WellFormed child.2) :
      WellFormed (.directory readable children)
  | link (target : Path) : WellFormed (.link target)
  | special : WellFormed .special

/-- What stands below a well-formed tree is well formed. -/
theorem Tree.WellFormed.of_at? {names : List String} {tree node : Tree} (hwf : tree.WellFormed)
    (hnode : tree.at? names = some node) : node.WellFormed := by
  induction names generalizing tree with
  | nil =>
    rw [Tree.at?, Option.some.injEq] at hnode
    exact hnode ▸ hwf
  | cons name names ih =>
    rw [Tree.at?, Option.bind_eq_some_iff] at hnode
    obtain ⟨child, hchild, hnode⟩ := hnode
    cases hwf with
    | file | link | special => simp [Tree.child?] at hchild
    | directory readable hdistinct hnames hbelow =>
      exact ih (hbelow (name, child) (Pairs.mem_of_lookup hchild)) hnode

/-- A file system whose names are names: of the entries of its directories, and on the way to its
working directory. -/
structure FileSystem.WellFormed (fs : FileSystem) : Prop where
  tree : fs.tree.WellFormed
  cwd : fs.cwd.IsProper

/-- The entries of a directory could stand side by side: their names are distinct names. -/
structure Listing.IsProper (listing : Listing) : Prop where
  distinct : (listing.map ListingEntry.name).Nodup
  names : ∀ entry ∈ listing, IsEntryName entry.name

namespace FileSystem

variable {fs : FileSystem}

/-- What stands in a well-formed file system is well formed. -/
theorem WellFormed.of_node? {location : Location} {node : Tree} (hwf : fs.WellFormed)
    (hnode : fs.node? location = some node) : node.WellFormed :=
  hwf.tree.of_at? hnode

/-- What a path leads to in a well-formed file system is well formed. -/
theorem WellFormed.of_stat {path : Path} {node : Tree} (hwf : fs.WellFormed)
    (hstat : fs.stat path = .ok node) : node.WellFormed := by
  simp only [stat, bind, Except.bind] at hstat
  split at hstat
  · cases hstat
  · split at hstat
    · next hnode => cases hstat; exact hwf.of_node? hnode
    · cases hstat

/-- The children of a directory have distinct names. -/
theorem WellFormed.of_readDirectory {path : Path} {children : List (String × Tree)}
    (hwf : fs.WellFormed) (hread : fs.readDirectory path = .ok children) :
    (children.map Prod.fst).Nodup ∧ ∀ child ∈ children, IsEntryName child.1 := by
  simp only [readDirectory, bind, Except.bind] at hread
  split at hread
  · cases hread
  · next node hstat =>
    have hnode := hwf.of_stat hstat
    split at hread <;> cases hread
    cases hnode with
    | directory _ hdistinct hnames _ => exact ⟨hdistinct, hnames⟩

/-- An entry of a listing has the name of the child it is made from. -/
theorem name_of_entryOf {directory : Location} {child : String × Tree} {entry : ListingEntry}
    (hentry : fs.entryOf directory child = some entry) : entry.name = child.1 := by
  unfold entryOf at hentry
  split at hentry
  · cases hentry
  · obtain ⟨kind, -, rfl⟩ := Option.map_eq_some_iff.mp hentry
    rfl

/-- The names of the entries are among the names of the children, in the same order. -/
theorem sublist_names_entryOf (directory : Location) (children : List (String × Tree)) :
    ((children.filterMap (fs.entryOf directory)).map ListingEntry.name).Sublist
      (children.map Prod.fst) := by
  induction children with
  | nil => exact .slnil
  | cons child children ih =>
    cases hentry : fs.entryOf directory child with
    | none => simpa [List.filterMap_cons, hentry] using ih.cons child.1
    | some entry =>
      rw [List.filterMap_cons, hentry, List.map_cons, List.map_cons, name_of_entryOf hentry]
      exact ih.cons_cons child.1

/-- The listing of a directory of a well-formed file system is proper. -/
theorem WellFormed.isProper_of_listing {directory : Location} {entries : Listing}
    (hwf : fs.WellFormed) (hlisting : fs.listing directory = .ok entries) : entries.IsProper := by
  simp only [listing, bind, Except.bind, pure, Except.pure] at hlisting
  split at hlisting
  · cases hlisting
  · next children hread =>
    cases hlisting
    obtain ⟨hdistinct, hnames⟩ := hwf.of_readDirectory hread
    have hperm := List.mergeSort_perm (children.filterMap (fs.entryOf directory)) ListingEntry.le
    refine ⟨?_, fun entry hentry => ?_⟩
    · exact (hperm.map ListingEntry.name).nodup_iff.mpr
        (hdistinct.sublist (sublist_names_entryOf directory children))
    · obtain ⟨child, hchild, hmade⟩ := List.mem_filterMap.mp (hperm.mem_iff.mp hentry)
      rw [name_of_entryOf hmade]
      exact hnames child hchild

end FileSystem

end TemplateCatalog
