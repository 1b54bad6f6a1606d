import Mathlib.Data.List.Basic
import Mathlib.Tactic.Common
import TemplateCatalog.Proofs.Tree.WellFormed

/-!
# Canonical locations

A path is resolved to the location that it leads to. Written as a path again, that location leads
to itself, so a content root that has been resolved once may be resolved again.

Main statements:

* `Location.path_injective`: proper locations with one path are one location.
* `FileSystem.canonicalize_path`, `FileSystem.canonicalize_path_top`: the path of a location leads
  to the location.
* `FileSystem.WellFormed.isProper_of_canonicalize`: a path leads to a proper location.
* `FileSystem.WellFormed.eq_of_canonicalize_path`: the location that a path leads to leads to no
  other one.
-/

namespace TemplateCatalog

/-! ### The path of a location -/

/-- A part without slashes is split off the rest of the text. -/
theorem slashParts_append_slash {part : List Char} (hpart : '/' ∉ part) (rest : List Char) :
    slashParts (part ++ '/' :: rest) = part :: slashParts rest := by
  induction part with
  | nil => simp [slashParts]
  | cons c part ih =>
    rw [List.mem_cons, not_or] at hpart
    rw [List.cons_append, slashParts, if_neg (Ne.symm hpart.1), ih hpart.2]

/-- A text without slashes is one part. -/
theorem slashParts_of_not_mem {part : List Char} (hpart : '/' ∉ part) :
    slashParts part = [part] := by
  induction part with
  | nil => rfl
  | cons c part ih =>
    rw [List.mem_cons, not_or] at hpart
    rw [slashParts, if_neg (Ne.symm hpart.1), ih hpart.2]

/-- A text always has a part, even if it is empty. -/
theorem slashParts_ne_nil (cs : List Char) : slashParts cs ≠ [] := by
  cases cs with
  | nil => simp [slashParts]
  | cons c cs =>
    rw [slashParts]
    split
    · simp
    · split <;> simp

theorem Path.parts_ne_nil (path : Path) : path.parts ≠ [] := by
  simp [Path.parts, slashParts_ne_nil]

namespace Location

/-- The names of a proper location are found again between the slashes of its text. -/
theorem slashParts_names {names : List String} (hproper : IsProper ⟨names⟩) {part : List Char}
    (hpart : '/' ∉ part) :
    slashParts (part ++ names.flatMap fun name => '/' :: name.toList) =
      part :: names.map String.toList := by
  induction names generalizing part with
  | nil => simpa using slashParts_of_not_mem hpart
  | cons name names ih =>
    have hname : IsEntryName name := hproper name List.mem_cons_self
    have hrest : IsProper ⟨names⟩ := fun other hother =>
      hproper other (List.mem_cons_of_mem _ hother)
    rw [List.flatMap_cons, List.cons_append, slashParts_append_slash hpart,
      ih hrest hname.no_slash, List.map_cons]

theorem toList_text {location : Location} (hne : location.names ≠ []) :
    location.text.toList = location.names.flatMap fun name => '/' :: name.toList := by
  have hempty : location.names.isEmpty = false := by simpa using hne
  rw [text, hempty]
  simp [String.toList_join, List.flatMap_map]

/-- The parts of the path of a proper location are its names, behind an empty part. -/
theorem IsProper.parts_path {location : Location} (hproper : location.IsProper)
    (hne : location.names ≠ []) : location.path.parts = "" :: location.names := by
  have hparts : slashParts (location.names.flatMap fun name => '/' :: name.toList) =
      [] :: location.names.map String.toList :=
    slashParts_names hproper List.not_mem_nil
  rw [Path.parts, path, toList_text hne, hparts]
  simp

theorem parts_path_top : top.path.parts = ["", ""] := by
  decide

/-- The path of a location starts at the top. -/
theorem isAbsolute_path (location : Location) : location.path.isAbsolute = true := by
  by_cases hne : location.names = []
  · simp [Path.isAbsolute, path, text, hne]
  · obtain ⟨name, names, hnames⟩ := List.exists_cons_of_ne_nil hne
    simp [Path.isAbsolute, path, toList_text hne, hnames]

/-- Proper locations with one path are one location. -/
theorem path_injective {a b : Location} (ha : a.IsProper) (hb : b.IsProper)
    (hpath : a.path = b.path) : a = b := by
  -- No proper location but the top has the parts of the top.
  have htop : ∀ location : Location, location.IsProper → location.path.parts = ["", ""] →
      location.names = [] := by
    intro location hproper hparts
    by_contra hne
    rw [hproper.parts_path hne, List.cons.injEq] at hparts
    exact (hproper "" (by simp [hparts.2])).ne_empty rfl
  have hparts : a.path.parts = b.path.parts := by rw [hpath]
  by_cases hna : a.names = []
  · have hatop : a = top := by cases a; simpa [top] using hna
    rw [hatop, parts_path_top] at hparts
    have hnb := htop b hb hparts.symm
    cases a; cases b; simp_all
  · by_cases hnb : b.names = []
    · have hbtop : b = top := by cases b; simpa [top] using hnb
      rw [hbtop, parts_path_top] at hparts
      exact absurd (htop a ha hparts) hna
    · rw [ha.parts_path hna, hb.parts_path hnb, List.cons.injEq] at hparts
      cases a; cases b; simp_all

end Location

/-! ### Following paths -/

namespace FileSystem

variable {fs : FileSystem}

/-- A file or a directory stands at the location, not a link. -/
def Stands (fs : FileSystem) (location : Location) : Prop :=
  ∃ node, fs.node? location = some node ∧ ∀ target, node ≠ .link target

theorem stands_of_directory {location : Location} {readable : Bool}
    {children : List (String × Tree)}
    (hnode : fs.node? location = some (.directory readable children)) : fs.Stands location :=
  ⟨_, hnode, by simp⟩

/-- A child stands where its parent holds it. -/
theorem node?_child (location : Location) (name : String) :
    fs.node? (location.child name) = (fs.node? location).bind (Tree.child? name) := by
  rw [node?, Location.child, Tree.at?_append, node?]
  congr 1
  funext node
  cases hchild : node.child? name <;> simp [Tree.at?, hchild]

/-- Above everything that stands in the tree stands a directory. -/
theorem Stands.parent {location : Location} (hstands : fs.Stands location) :
    fs.Stands location.parent := by
  by_cases hne : location.names = []
  · have hself : location.parent = location := by cases location; simp_all [Location.parent]
    rwa [hself]
  · obtain ⟨node, hnode, -⟩ := hstands
    have hlocation : location = location.parent.child (location.names.getLast hne) := by
      rw [Location.child, Location.parent, List.dropLast_concat_getLast hne]
    rw [hlocation, node?_child, Option.bind_eq_some_iff] at hnode
    obtain ⟨above, habove, hchild⟩ := hnode
    cases above with
    | file | link | special => simp [Tree.child?] at hchild
    | directory => exact stands_of_directory habove

/-- From a proper location on, parts lead to proper locations. -/
theorem WellFormed.isProper_of_walk {links : Nat} {location result : Location}
    {parts : List String} (hwf : fs.WellFormed) (hproper : location.IsProper)
    (hwalk : fs.walk links location parts = .ok result) : result.IsProper := by
  fun_induction walk fs links location parts with
  | case1 => cases hwalk; exact hproper
  | case2 links location part rest readable children hnode hskip ih => exact ih hproper hwalk
  | case3 links location rest readable children hnode hskip ih => exact ih hproper.parent hwalk
  | case4 | case5 | case6 | case9 | case10 => cases hwalk
  | case7 location part rest readable children hnode hskip hup hsize target hlookup links start
      ih =>
    -- A link is followed from the top or from where it stands.
    have hstart : start.IsProper := by
      show (if target.isAbsolute then Location.top else location).IsProper
      split
      · exact Location.isProper_top
      · exact hproper
    exact ih hstart hwalk
  | case8 links location part rest readable children hnode hskip hup hsize child hlink hlookup ih =>
    have hname : IsEntryName part := by
      cases hwf.of_node? hnode with
      | directory _ _ hnames _ => exact hnames (part, child) (Pairs.mem_of_lookup hlookup)
    exact ih (hproper.child hname) hwalk

/-- Parts lead to where something stands that is no link, if there are any parts. -/
theorem stands_of_walk {links : Nat} {location result : Location} {parts : List String}
    (hstart : parts ≠ [] ∨ fs.Stands location) (hwalk : fs.walk links location parts = .ok result) :
    fs.Stands result := by
  fun_induction walk fs links location parts with
  | case1 => cases hwalk; simpa using hstart -- No parts are left, so `location` stands.
  | case2 links location part rest readable children hnode hskip ih =>
    exact ih (.inr (stands_of_directory hnode)) hwalk
  | case3 links location rest readable children hnode hskip ih =>
    exact ih (.inr (stands_of_directory hnode).parent) hwalk
  | case4 | case5 | case6 | case9 | case10 => cases hwalk
  | case7 location part rest readable children hnode hskip hup hsize target hlookup links start
      ih =>
    -- A link need not lead to where it starts from, but its target has parts.
    have hparts : target.parts ++ rest ≠ [] := by simp [target.parts_ne_nil]
    exact ih (.inl hparts) hwalk
  | case8 links location part rest readable children hnode hskip hup hsize child hlink hlookup ih =>
    have hchild : fs.node? (location.child part) = some child := by
      rw [node?_child, hnode, Option.bind_some, Tree.child?, hlookup]
    exact ih (.inr ⟨child, hchild, hlink⟩) hwalk

/-- On the way down to something that is no link there are directories only. -/
theorem Stands.directory_above {above : Location} {name : String} {names : List String}
    (hstands : fs.Stands ⟨above.names ++ name :: names⟩) :
    ∃ readable children child, fs.node? above = some (.directory readable children) ∧
      children.lookup name = some child ∧ ∀ target, child ≠ .link target := by
  obtain ⟨node, hnode, hno⟩ := hstands
  rw [node?, Tree.at?_append, Option.bind_eq_some_iff] at hnode
  obtain ⟨outer, habove, hbelow⟩ := hnode
  rw [Tree.at?, Option.bind_eq_some_iff] at hbelow
  obtain ⟨child, hchild, hbelow⟩ := hbelow
  cases outer with
  | file | link | special => simp [Tree.child?] at hchild
  | directory readable children =>
    refine ⟨readable, children, child, habove, hchild, fun target hlink => ?_⟩
    -- Nothing stands below a link, and a link does not stand itself.
    subst hlink
    cases names with
    | nil =>
      rw [Tree.at?, Option.some.injEq] at hbelow
      exact hno target hbelow.symm
    | cons next names => simp [Tree.at?, Tree.child?] at hbelow

/-- Names that lead down to something that is no link are followed as they are. -/
theorem walk_names {links : Nat} {above : Location} {names : List String}
    (hnames : ∀ name ∈ names, IsEntryName name) (hstands : fs.Stands ⟨above.names ++ names⟩) :
    fs.walk links above names = .ok ⟨above.names ++ names⟩ := by
  induction names generalizing above with
  | nil =>
    rw [walk, List.append_nil]
  | cons name names ih =>
    have hname := hnames name List.mem_cons_self
    obtain ⟨readable, children, child, habove, hlookup, hno⟩ := hstands.directory_above
    have hdown : above.names ++ name :: names = (above.child name).names ++ names := by
      simp [Location.child]
    rw [hdown] at hstands ⊢
    have hrest := ih (fun other hother => hnames other (List.mem_cons_of_mem _ hother)) hstands
    rw [walk, habove]
    simp only
    rw [if_neg (by simp [hname.ne_empty, hname.ne_dot]), if_neg hname.ne_dots,
      if_neg (Nat.not_lt.mpr hname.size_le), hlookup]
    -- What is looked up is no link, so it is followed to the child.
    cases child with
    | link target => exact absurd rfl (hno target)
    | file | directory | special => exact hrest

/-- The parts of the path of a location below the top lead to the location, if something stands
there. -/
theorem walk_parts_path {links : Nat} {location : Location} (hproper : location.IsProper)
    (hne : location.names ≠ []) (hstands : fs.Stands location) :
    fs.walk links .top location.path.parts = .ok location := by
  have hdown : fs.walk links .top location.names = .ok location :=
    @walk_names fs links .top _ hproper hstands
  rw [hproper.parts_path hne, walk]
  obtain ⟨names⟩ := location
  cases names with
  | nil => exact absurd rfl hne
  | cons name names =>
    -- The empty part in front stays at the top.
    obtain ⟨readable, children, child, htop, -⟩ :=
      @Stands.directory_above fs .top name names hstands
    rw [htop]
    exact (if_pos (.inl rfl)).trans hdown

/-- Where a path leads to is where its parts lead to. -/
theorem walk_of_canonicalize {path : Path} {location : Location}
    (hcanonical : fs.canonicalize path = .ok location) :
    fs.walk linkLimit (if path.isAbsolute then .top else fs.cwd) path.parts = .ok location := by
  rw [canonicalize] at hcanonical
  split at hcanonical
  · cases hcanonical
  · split at hcanonical
    · cases hcanonical
    · split at hcanonical
      · cases hcanonical
      · exact hcanonical

/-- A path leads to a proper location. -/
theorem WellFormed.isProper_of_canonicalize {path : Path} {location : Location}
    (hwf : fs.WellFormed) (hcanonical : fs.canonicalize path = .ok location) :
    location.IsProper := by
  refine hwf.isProper_of_walk ?_ (walk_of_canonicalize hcanonical)
  split
  · exact Location.isProper_top
  · exact hwf.cwd

/-- A path leads to a file or a directory. -/
theorem stands_of_canonicalize {path : Path} {location : Location}
    (hcanonical : fs.canonicalize path = .ok location) : fs.Stands location :=
  stands_of_walk (.inl path.parts_ne_nil) (walk_of_canonicalize hcanonical)

/-- The path of a location where something stands leads to no other location. -/
theorem eq_of_canonicalize_path {location result : Location} (hproper : location.IsProper)
    (hstands : fs.Stands location) (hcanonical : fs.canonicalize location.path = .ok result) :
    result = location := by
  have hwalk := walk_of_canonicalize hcanonical
  rw [if_pos location.isAbsolute_path] at hwalk
  by_cases hne : location.names = []
  · -- The two parts of the top stay at the top.
    have htop : location = .top := by cases location; simpa [Location.top] using hne
    subst htop
    rw [Location.parts_path_top, walk] at hwalk
    split at hwalk
    · next hnode =>
      rw [if_pos (.inl rfl), walk, hnode] at hwalk
      simp only [true_or, if_true, walk] at hwalk
      cases hwalk
      rfl
    · cases hwalk
    · cases hwalk
  · rw [walk_parts_path hproper hne hstands] at hwalk
    cases hwalk
    rfl

/-- The path of a proper location is looked at at all, if it is not too long. -/
theorem canonicalize_path_eq_ite {location : Location} (hproper : location.IsProper) :
    fs.canonicalize location.path =
      if pathLimit < location.text.utf8ByteSize then .error .nameTooLong
      else fs.walk linkLimit .top location.path.parts := by
  have hnul : '\x00' ∉ location.path.text.toList := by
    by_cases hne : location.names = []
    · simp [Location.path, Location.text, hne]
    · rw [Location.path, Location.toList_text hne, List.mem_flatMap]
      rintro ⟨name, hname, hmem⟩
      rcases List.mem_cons.mp hmem with hslash | hmem
      · exact absurd hslash (by decide)
      · exact (hproper name hname).no_nul hmem
  have hnonempty : location.path.text ≠ "" := by
    intro hempty
    have habsolute := location.isAbsolute_path
    rw [Path.isAbsolute, hempty] at habsolute
    cases habsolute
  rw [canonicalize, if_neg (by simpa using hnul), if_neg hnonempty, if_pos location.isAbsolute_path]
  rfl

/-- The path of a proper location leads to where its parts lead to, if it is not too long. -/
theorem canonicalize_path_eq_walk {location : Location} (hproper : location.IsProper)
    (hsize : location.text.utf8ByteSize ≤ pathLimit) :
    fs.canonicalize location.path = fs.walk linkLimit .top location.path.parts := by
  rw [canonicalize_path_eq_ite hproper, if_neg (Nat.not_lt.mpr hsize)]

/-- The path of a location below the top leads to the location, if something stands there and the
path is not too long. -/
theorem canonicalize_path {location : Location} (hproper : location.IsProper)
    (hne : location.names ≠ []) (hstands : fs.Stands location)
    (hsize : location.text.utf8ByteSize ≤ pathLimit) :
    fs.canonicalize location.path = .ok location :=
  (canonicalize_path_eq_walk hproper hsize).trans (walk_parts_path hproper hne hstands)

/-- The path of the top leads to the top, if a directory stands there. -/
theorem canonicalize_path_top {readable : Bool} {children : List (String × Tree)}
    (htop : fs.node? .top = some (.directory readable children)) :
    fs.canonicalize Location.top.path = .ok .top := by
  have hsize : Location.top.text.utf8ByteSize ≤ pathLimit := by decide
  rw [canonicalize_path_eq_walk Location.isProper_top hsize, Location.parts_path_top]
  -- Both parts are empty and stay where they are.
  simp only [walk, htop, true_or, if_true]

/-- What can be listed is a directory, and what is listed are its children. -/
theorem stat_of_readDirectory {path : Path} {children : List (String × Tree)}
    (hread : fs.readDirectory path = .ok children) :
    fs.stat path = .ok (.directory true children) := by
  unfold readDirectory at hread
  cases hstat : fs.stat path with
  | error cause => simp [hstat, bind, Except.bind] at hread
  | ok node =>
    simp only [hstat, bind, Except.bind] at hread
    split at hread <;> cases hread
    rfl

theorem exists_listing {directory : Location} {children : List (String × Tree)}
    (hread : fs.readDirectory directory.path = .ok children) :
    ∃ listing, fs.listing directory = .ok listing := by
  refine ⟨(children.filterMap (fs.entryOf directory)).mergeSort ListingEntry.le, ?_⟩
  simp only [listing, hread, bind, Except.bind, pure, Except.pure]

/-- The children of a directory are read under the path of its location. -/
theorem readDirectory_path {location : Location}
    (hcanonical : fs.canonicalize location.path = .ok location) {children : List (String × Tree)}
    (hnode : fs.node? location = some (.directory true children)) :
    fs.readDirectory location.path = .ok children := by
  simp only [readDirectory, stat, hcanonical, bind, Except.bind, hnode]

/-- A directory whose entries are in order is listed as they are. -/
theorem listing_of_entries {directory : Location} {children : List (String × Tree)}
    {listing : Listing} (hread : fs.readDirectory directory.path = .ok children)
    (hentries : children.filterMap (fs.entryOf directory) = listing)
    (hsorted : listing.Pairwise fun a b => a.le b = true) :
    fs.listing directory = .ok listing := by
  simp only [FileSystem.listing, hread, bind, Except.bind, pure, Except.pure]
  rw [hentries, List.mergeSort_of_pairwise hsorted]

/-- A directory that holds nothing but visible files is listed file by file. -/
theorem listing_of_files {directory : Location} {children : List (String × Tree)}
    (hread : fs.readDirectory directory.path = .ok children)
    (hfiles : ∀ child ∈ children, isHiddenName child.1 = false ∧
      ∃ readable bytes, child.2 = .file readable bytes)
    (hsorted : (children.map fun child => (⟨child.1, .file⟩ : ListingEntry)).Pairwise
      fun a b => a.le b = true) :
    fs.listing directory = .ok (children.map fun child => ⟨child.1, .file⟩) := by
  refine listing_of_entries hread ?_ hsorted
  refine List.filterMap_eq_map_iff_forall_eq_some.mpr fun child hchild => ?_
  obtain ⟨hvisible, readable, bytes, hfile⟩ := hfiles child hchild
  simp [entryOf, hvisible, hfile, entryKind?]

/-- A directory at the top that holds nothing but visible files is listed file by file. -/
theorem listing_top_of_files {children : List (String × Tree)}
    (htop : fs.node? .top = some (.directory true children))
    (hfiles : ∀ child ∈ children, isHiddenName child.1 = false ∧
      ∃ readable bytes, child.2 = .file readable bytes)
    (hsorted : (children.map fun child => (⟨child.1, .file⟩ : ListingEntry)).Pairwise
      fun a b => a.le b = true) :
    fs.listing .top = .ok (children.map fun child => ⟨child.1, .file⟩) :=
  listing_of_files (readDirectory_path (canonicalize_path_top htop) htop) hfiles hsorted

/-- The text of a file is read back under the path of its location. -/
theorem readText_path {location : Location} (hproper : location.IsProper)
    (hne : location.names ≠ []) (hsize : location.text.utf8ByteSize ≤ pathLimit) {text : String}
    (hnode : fs.node? location = some (.file true text.toUTF8)) :
    fs.readText location.path = .ok text := by
  have hcanonical := canonicalize_path hproper hne ⟨_, hnode, by simp⟩ hsize
  have htext : String.fromUTF8? text.toUTF8 = some text := by
    simp only [String.fromUTF8?, String.toUTF8_eq_toByteArray, String.fromUTF8]
    exact dif_pos text.isValidUTF8
  simp only [readText, stat, hcanonical, bind, Except.bind, hnode, htext]

/-- Resolving what a path was resolved to gives the same location, if it gives any. -/
theorem WellFormed.eq_of_canonicalize_path {path : Path} {location result : Location}
    (hwf : fs.WellFormed) (hfirst : fs.canonicalize path = .ok location)
    (hagain : fs.canonicalize location.path = .ok result) : result = location :=
  FileSystem.eq_of_canonicalize_path (hwf.isProper_of_canonicalize hfirst)
    (stands_of_canonicalize hfirst) hagain

end FileSystem

end TemplateCatalog
