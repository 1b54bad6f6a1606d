import TemplateCatalog.Tree.Lookup

/-!
# Directory listings

What the catalog sees of a directory: the entries that are not hidden, in the order of their names,
each of them a directory or a file. A link to a file counts as a file; other links are left out, so
no walk through listings ever goes in a circle. Special files are left out as well.

Main statements:

* `mem_listing_iff`: exactly which entries a listing has.
-/

namespace TemplateCatalog

/-- What a directory entry is to the catalog. -/
inductive EntryKind where
  /-- A directory, which may hold more entries. -/
  | directory
  /-- A file, or a link to one. -/
  | file
  deriving DecidableEq, Repr, Inhabited

/-- A visible entry of a directory. -/
structure ListingEntry where
  /-- The name of the entry. -/
  name : String
  /-- What the entry is. -/
  kind : EntryKind
  deriving DecidableEq, Repr, Inhabited

/-- The visible entries of a directory, in the order of their names. -/
abbrev Listing : Type :=
  List ListingEntry

/-- Entries whose names begin with a dot are hidden. -/
def isHiddenName (name : String) : Bool :=
  name.toList.head? == some '.'

/-- The name of the first entry comes before that of the second, or the names are the same. -/
def ListingEntry.le (a b : ListingEntry) : Bool :=
  !(b.name < a.name)

namespace FileSystem

/-- What the entry at a location is, if it counts at all. -/
def entryKind? (fs : FileSystem) (location : Location) : Tree → Option EntryKind
  | .directory .. => some .directory
  | .file .. => some .file
  | .link _ =>
    match fs.stat location.path with
    | .ok (.file ..) => some .file
    | _ => none
  | .special => none

/-- The entry that the child of a directory makes, unless it is hidden or does not count. -/
def entryOf (fs : FileSystem) (directory : Location) (child : String × Tree) :
    Option ListingEntry :=
  if isHiddenName child.1 then none
  else (fs.entryKind? (directory.child child.1) child.2).map (⟨child.1, ·⟩)

/-- The listing of the directory at a location. -/
def listing (fs : FileSystem) (directory : Location) : Except IoError Listing := do
  let children ← fs.readDirectory directory.path
  return (children.filterMap (fs.entryOf directory)).mergeSort ListingEntry.le

/-- A listing has exactly the visible entries of the directory. -/
theorem mem_listing_iff {fs : FileSystem} {directory : Location}
    {children : List (String × Tree)} {entries : Listing} (entry : ListingEntry)
    (read : fs.readDirectory directory.path = .ok children)
    (listed : fs.listing directory = .ok entries) :
    entry ∈ entries ↔ ∃ child ∈ children, fs.entryOf directory child = some entry := by
  simp only [listing, read, bind, Except.bind, pure, Except.pure, Except.ok.injEq] at listed
  subst listed
  simp [List.mem_mergeSort, List.mem_filterMap]

end FileSystem

end TemplateCatalog
