import Mathlib.Data.List.Nodup
import TemplateCatalog.Proofs.Tree.Canonical

/-!
# Rearranged file trees

The entries of a directory come in some order, which nobody has promised anything about. Two file
systems that differ in this order only lead every path to the same place, and since listings are
sorted by names, every directory has the same listing in both.

The module introduces:

* `Tree.Alike`: two nodes look the same from above, but for the order of their entries;
* `FileSystem.Rearranged`: two file systems look the same everywhere, but for the order of entries.

Main statements:

* `FileSystem.Rearranged.canonicalize_eq`: every path leads to the same place.
* `FileSystem.Rearranged.listing_eq`: every directory has the same listing.
-/

namespace TemplateCatalog

/-- Two nodes look the same from above: the same file, the same link, special files, or directories
whose entries have the same names, in whatever order. -/
inductive Tree.Alike : Tree → Tree → Prop
  | file (readable : Bool) (bytes : ByteArray) : Alike (.file readable bytes) (.file readable bytes)
  | directory (readable : Bool) {children others : List (String × Tree)}
      (hnames : (children.map Prod.fst).Perm (others.map Prod.fst)) :
      Alike (.directory readable children) (.directory readable others)
  | link (target : Path) : Alike (.link target) (.link target)
  | special : Alike .special .special

/-- Sorted by their names, entries with different names come in one order only. -/
theorem Listing.mergeSort_eq {entries others : Listing} (hperm : entries.Perm others)
    (hdistinct : (entries.map ListingEntry.name).Nodup) :
    entries.mergeSort ListingEntry.le = others.mergeSort ListingEntry.le := by
  have hsorted : ∀ listing : Listing,
      (listing.mergeSort ListingEntry.le).Pairwise fun a b => a.le b = true := by
    refine List.pairwise_mergeSort (fun a b c hab hbc => ?_) (fun a b => ?_)
    · simp only [ListingEntry.le, Bool.not_eq_true', decide_eq_false_iff_not, String.not_lt] at *
      exact String.le_trans hab hbc
    · simp only [ListingEntry.le, Bool.or_eq_true, Bool.not_eq_true', decide_eq_false_iff_not,
        String.not_lt]
      exact String.le_total a.name b.name
  have hsame : (entries.mergeSort ListingEntry.le).Perm (others.mergeSort ListingEntry.le) :=
    (List.mergeSort_perm _ _).trans (hperm.trans (List.mergeSort_perm _ _).symm)
  refine List.Perm.eq_of_pairwise (fun a b ha hb hab hba => ?_) (hsorted entries) (hsorted others)
    hsame
  -- Neither name comes first, so it is one name, and there is one entry of this name.
  rw [List.mem_mergeSort] at ha hb
  simp only [ListingEntry.le, Bool.not_eq_true', decide_eq_false_iff_not, String.not_lt] at hab hba
  exact List.inj_on_of_nodup_map hdistinct ha (hperm.mem_iff.mpr hb) (String.le_antisymm hab hba)

/-- Two file systems look the same everywhere, but for the order of the entries of directories. -/
structure FileSystem.Rearranged (fs other : FileSystem) : Prop where
  cwd : fs.cwd = other.cwd
  nodes : ∀ location, Option.Rel Tree.Alike (fs.node? location) (other.node? location)

namespace FileSystem

namespace Rearranged

variable {fs other : FileSystem}

/-! ### Paths -/

/-- Where a directory stands in one file system, one with the same entries stands in the other. -/
theorem exists_directory (halike : fs.Rearranged other) {location : Location} {readable : Bool}
    {children : List (String × Tree)}
    (hnode : fs.node? location = some (.directory readable children)) :
    ∃ others, other.node? location = some (.directory readable others) ∧
      (children.map Prod.fst).Perm (others.map Prod.fst) ∧
      ∀ name, Option.Rel Tree.Alike (children.lookup name) (others.lookup name) := by
  have hrel := halike.nodes location
  rw [hnode] at hrel
  generalize hother : other.node? location = node at hrel
  cases hrel with
  | some hrel =>
    cases hrel with
    | @directory _ _ others hnames =>
      refine ⟨others, rfl, hnames, fun name => ?_⟩
      -- What stands under a name is what stands at the child.
      have hchild := halike.nodes (location.child name)
      rw [node?_child, node?_child, hnode, hother] at hchild
      exact hchild

/-- From a directory, a path goes on to a child that looks the same. -/
theorem walk_child (halike : fs.Rearranged other) {location : Location} {readable : Bool}
    {children : List (String × Tree)} {part : String}
    (hnode : fs.node? location = some (.directory readable children))
    (hskip : ¬(part = "" ∨ part = ".")) (hup : part ≠ "..")
    (hsize : ¬nameLimit < part.utf8ByteSize) :
    ∃ found, Option.Rel Tree.Alike (children.lookup part) found ∧ ∀ links rest,
      other.walk links location (part :: rest) =
        match found with
        | none => .error .notFound
        | some (.link target) =>
          match links with
          | 0 => .error .tooManyLinks
          | left + 1 =>
            other.walk left (if target.isAbsolute then .top else location) (target.parts ++ rest)
        | some _ => other.walk links (location.child part) rest := by
  obtain ⟨others, hother, -, hchildren⟩ := halike.exists_directory hnode
  refine ⟨others.lookup part, hchildren part, fun links rest => ?_⟩
  rw [walk.eq_def, hother]
  exact (if_neg hskip).trans ((if_neg hup).trans (if_neg hsize))

/-- Following a path comes to the same in both file systems. -/
theorem walk_eq (halike : fs.Rearranged other) (links : Nat) (location : Location)
    (parts : List String) : fs.walk links location parts = other.walk links location parts := by
  -- Which case of the walk it is depends on lookups only, and the order of children is nothing to
  -- them. So the other walk is in the same case.
  fun_induction walk fs links location parts with
  | case1 => rw [walk]
  | case2 links location part rest readable children hnode hskip ih =>
    obtain ⟨others, hother, -⟩ := halike.exists_directory hnode
    rw [walk, hother]
    simp only [if_pos hskip, ih]
  | case3 links location rest readable children hnode hskip ih =>
    obtain ⟨others, hother, -⟩ := halike.exists_directory hnode
    rw [walk, hother]
    simp only [if_neg hskip, if_true, ih]
  | case4 links location part rest readable children hnode hskip hup hsize =>
    obtain ⟨others, hother, -⟩ := halike.exists_directory hnode
    rw [walk, hother]
    simp only [if_neg hskip, if_neg hup, if_pos hsize]
  | case5 links location part rest readable children hnode hskip hup hsize hlookup =>
    obtain ⟨found, hchild, hwalk⟩ := halike.walk_child hnode hskip hup hsize
    rw [hlookup] at hchild
    cases hchild
    exact (hwalk links rest).symm
  | case6 location part rest readable children hnode hskip hup hsize target hlookup =>
    obtain ⟨found, hchild, hwalk⟩ := halike.walk_child hnode hskip hup hsize
    rw [hlookup] at hchild
    obtain ⟨⟨⟩⟩ := hchild
    exact (hwalk 0 rest).symm
  | case7 location part rest readable children hnode hskip hup hsize target hlookup left start ih =>
    obtain ⟨found, hchild, hwalk⟩ := halike.walk_child hnode hskip hup hsize
    rw [hlookup] at hchild
    obtain ⟨⟨⟩⟩ := hchild
    exact ih.trans (hwalk (left + 1) rest).symm
  | case8 links location part rest readable children hnode hskip hup hsize child hlink hlookup ih =>
    obtain ⟨found, hchild, hwalk⟩ := halike.walk_child hnode hskip hup hsize
    rw [hlookup] at hchild
    rw [ih, hwalk links rest]
    cases hchild with
    | some hrel =>
      cases hrel with
      | file | directory | special => rfl
      | link target => exact absurd rfl (hlink target)
  | case9 links location part rest node hno hnode =>
    have hrel := halike.nodes location
    rw [hnode] at hrel
    rw [walk.eq_def other links location (part :: rest)]
    generalize other.node? location = found at hrel ⊢
    cases hrel with
    | some hrel =>
      cases hrel with
      | file | link | special => rfl
      | directory => exact (hno _ _ rfl).elim
  | case10 links location part rest hnode =>
    have hrel := halike.nodes location
    rw [hnode] at hrel
    rw [walk.eq_def other links location (part :: rest)]
    generalize other.node? location = found at hrel ⊢
    cases hrel
    rfl

/-- A path leads to the same place in both file systems. -/
theorem canonicalize_eq (halike : fs.Rearranged other) (path : Path) :
    fs.canonicalize path = other.canonicalize path := by
  unfold canonicalize
  rw [halike.cwd]
  simp only [halike.walk_eq]

/-- A path leads to nodes that look the same, or to nothing for the same reason. -/
theorem stat_alike (halike : fs.Rearranged other) (path : Path) :
    (∃ cause, fs.stat path = .error cause ∧ other.stat path = .error cause) ∨
      ∃ location node seen, fs.stat path = .ok node ∧ other.stat path = .ok seen ∧
        fs.node? location = some node ∧ other.node? location = some seen ∧ node.Alike seen := by
  unfold stat
  rw [halike.canonicalize_eq path]
  cases other.canonicalize path with
  | error cause => exact .inl ⟨cause, rfl, rfl⟩
  | ok location =>
    have hrel := halike.nodes location
    simp only [bind, Except.bind]
    generalize hnode : fs.node? location = node at hrel ⊢
    generalize hseen : other.node? location = seen at hrel ⊢
    cases hrel with
    | none => exact .inl ⟨_, rfl, rfl⟩
    | some hrel => exact .inr ⟨location, _, _, rfl, rfl, hnode, hseen, hrel⟩

/-! ### Listings -/

/-- What an entry is does not depend on the order of entries. -/
theorem entryKind?_eq (halike : fs.Rearranged other) (location : Location) {node seen : Tree}
    (hnode : node.Alike seen) : fs.entryKind? location node = other.entryKind? location seen := by
  cases hnode with
  | file | directory | special => rfl
  | link target =>
    -- A link is what its path leads to.
    unfold entryKind?
    rcases halike.stat_alike location.path with
      ⟨cause, hfirst, hsecond⟩ | ⟨place, first, second, hfirst, hsecond, -, -, hrel⟩
    · rw [hfirst, hsecond]
    · rw [hfirst, hsecond]
      cases hrel <;> rfl

/-- The entry under a name in the directory at a place. -/
def entryAt (fs : FileSystem) (directory place : Location) (name : String) : Option ListingEntry :=
  (fs.node? (place.child name)).bind fun node => fs.entryOf directory (name, node)

/-- The entries of a directory are those under its names. -/
theorem filterMap_entryOf {directory place : Location} {readable : Bool}
    {children : List (String × Tree)}
    (hnode : fs.node? place = some (.directory readable children))
    (hdistinct : (children.map Prod.fst).Nodup) :
    children.filterMap (fs.entryOf directory) =
      (children.map Prod.fst).filterMap (entryAt fs directory place) := by
  rw [List.filterMap_map]
  refine List.filterMap_congr fun child hchild => ?_
  have hlookup := (Pairs.lookup_eq_some_iff_mem hdistinct).mpr hchild
  simp only [Function.comp_apply, entryAt, node?_child, hnode, Option.bind_some, Tree.child?,
    hlookup]

theorem entryAt_eq (halike : fs.Rearranged other) (directory place : Location) (name : String) :
    entryAt fs directory place name = entryAt other directory place name := by
  have hrel := halike.nodes (place.child name)
  unfold entryAt
  generalize fs.node? (place.child name) = node at hrel ⊢
  generalize other.node? (place.child name) = seen at hrel ⊢
  cases hrel with
  | none => rfl
  | some hrel =>
    simp only [Option.bind_some, entryOf, halike.entryKind?_eq (directory.child name) hrel]

/-- Every directory has the same listing in both file systems. -/
theorem listing_eq (halike : fs.Rearranged other) (hwf : fs.WellFormed) (directory : Location) :
    fs.listing directory = other.listing directory := by
  unfold listing readDirectory
  rcases halike.stat_alike directory.path with
    ⟨cause, hfirst, hsecond⟩ | ⟨place, node, seen, hfirst, hsecond, hnode, hseen, hrel⟩
  · rw [hfirst, hsecond]
    rfl
  · rw [hfirst, hsecond]
    cases hrel with
    | file | link | special => rfl
    | @directory readable children others hnames =>
      cases readable with
      | false => rfl
      | true =>
        have hdistinct : (children.map Prod.fst).Nodup := by
          cases hwf.of_node? hnode with
          | directory _ hdistinct _ _ => exact hdistinct
        -- The same names make the same entries, in another order at most.
        have hperm : (children.filterMap (fs.entryOf directory)).Perm
            (others.filterMap (other.entryOf directory)) := by
          rw [filterMap_entryOf hnode hdistinct,
            filterMap_entryOf hseen (hnames.nodup_iff.mp hdistinct),
            funext (halike.entryAt_eq directory place)]
          exact hnames.filterMap _
        have hnodup : ((children.filterMap (fs.entryOf directory)).map ListingEntry.name).Nodup :=
          hdistinct.sublist (sublist_names_entryOf directory children)
        exact congrArg Except.ok (Listing.mergeSort_eq hperm hnodup)

end Rearranged

end FileSystem

end TemplateCatalog
