import Mathlib.Data.List.Infix
import TemplateCatalog.Proofs.Tree.Canonical
import TemplateCatalog.Tree.Edit

/-!
# Taking files out of a file tree

Files are taken out one after the other, and everything else stays where it is. No path leads
through a file, so the paths of what is left lead where they led before, and what is found there
looks the same.

The module introduces:

* `Tree.outside`: a node without what lies below it;
* `FileSystem.without`: the file system that is left when files are removed;
* `FileSystem.Pruned`: some files are missing, and everything else looks the same.

Main statements:

* `FileSystem.pruned_without`: when files are removed, nothing else changes.
* `FileSystem.Pruned.canonicalize_eq_ok_iff`: which paths lead where.
* `FileSystem.Pruned.stat_path`: what stands at a place that is kept looks the same.
-/

namespace TemplateCatalog

namespace Tree

/-- The node as it looks from outside: a directory without its children. -/
def outside : Tree → Tree
  | .directory readable _ => .directory readable []
  | node => node

/-! ### Children -/

section Children

variable {edit : Option Tree → Option Tree} {name : String} {children : List (String × Tree)}

/-- A change that puts nothing where nothing was brings no new names. -/
theorem names_editChildren_sublist (hnone : edit none = none) :
    ((editChildren name edit children).map Prod.fst).Sublist (children.map Prod.fst) := by
  induction children with
  | nil => simp [editChildren, hnone]
  | cons child children ih =>
    obtain ⟨other, node⟩ := child
    rw [editChildren]
    split
    · next hsame =>
      subst hsame
      cases edit (some node) with
      | none => exact List.sublist_cons_self _ _
      | some changed => exact List.Sublist.refl _
    · exact ih.cons_cons other

/-- A child was there before, or it is what the change has made of one. -/
theorem mem_editChildren (hnone : edit none = none) {child : String × Tree}
    (hchild : child ∈ editChildren name edit children) :
    child ∈ children ∨
      ∃ old new, (name, old) ∈ children ∧ edit (some old) = some new ∧ child = (name, new) := by
  induction children with
  | nil => simp [editChildren, hnone] at hchild
  | cons first children ih =>
    obtain ⟨other, node⟩ := first
    rw [editChildren] at hchild
    split at hchild
    · next hsame =>
      subst hsame
      rcases List.mem_append.mp hchild with hnew | hrest
      · rw [Option.mem_toList, Option.map_eq_some_iff] at hnew
        obtain ⟨new, hnew, rfl⟩ := hnew
        exact .inr ⟨node, new, List.mem_cons_self, hnew, rfl⟩
      · exact .inl (List.mem_cons_of_mem _ hrest)
    · rcases List.mem_cons.mp hchild with rfl | hchild
      · exact .inl List.mem_cons_self
      · rcases ih hchild with hmem | ⟨old, new, hold, hmade⟩
        · exact .inl (List.mem_cons_of_mem _ hmem)
        · exact .inr ⟨old, new, List.mem_cons_of_mem _ hold, hmade⟩

/-- The change is about the child of the name, and other children stay. -/
theorem lookup_editChildren (hdistinct : (children.map Prod.fst).Nodup) (other : String) :
    (editChildren name edit children).lookup other =
      if other = name then edit (children.lookup name) else children.lookup other := by
  -- What the change puts at the front is found under its name, and under no other one.
  have hhead : ∀ found : Option Tree, ∀ rest : List (String × Tree),
      ((found.map (name, ·)).toList ++ rest).lookup other =
        if other = name then found <|> rest.lookup other else rest.lookup other := by
    intro found rest
    by_cases hother : other = name
    · subst hother
      cases found <;> simp
    · cases found <;> simp [hother, beq_false_of_ne hother, List.lookup_cons]
  induction children with
  | nil =>
    have hnil := hhead (edit none) []
    rw [List.append_nil] at hnil
    rw [editChildren, hnil]
    simp
  | cons child children ih =>
    obtain ⟨first, node⟩ := child
    rw [List.map_cons, List.nodup_cons] at hdistinct
    rw [editChildren]
    split
    · next hsame =>
      subst hsame
      -- No other child has the name, so nothing comes to light if this one goes.
      have hnone : children.lookup first = none := Pairs.lookup_eq_none_of_not_mem hdistinct.1
      rw [hhead, List.lookup_cons_self]
      by_cases hother : other = first
      · subst hother
        simp [hnone]
      · simp [hother, beq_false_of_ne hother, List.lookup_cons]
    · next hdiffers =>
      have hname : ((first, node) :: children).lookup name = children.lookup name := by
        rw [List.lookup_cons, beq_false_of_ne (Ne.symm hdiffers)]
      rw [List.lookup_cons, ih hdistinct.2, hname]
      by_cases hfirst : other = first
      · subst hfirst
        simp [hdiffers]
      · simp [beq_false_of_ne hfirst, List.lookup_cons]

end Children

/-! ### Removing what stands at a place -/

/-- What becomes of the first node on the way when something below it is removed, or the node
itself. -/
def removeBelow (names : List String) (node : Option Tree) : Option Tree :=
  if names = [] then none else node.map (editAt (fun _ => none) names)

theorem editAt_remove_cons (name : String) (names : List String) (readable : Bool)
    (children : List (String × Tree)) :
    editAt (fun _ => none) (name :: names) (.directory readable children) =
      .directory readable (editChildren name (removeBelow names) children) := by
  cases names with
  | nil =>
    rw [editAt]
    rfl
  | cons next names =>
    rw [editAt]
    · rfl
    · simp

/-- Removing something leaves a tree well formed. -/
theorem WellFormed.remove {tree : Tree} (hwf : tree.WellFormed) (names : List String) :
    (tree.editAt (fun _ => none) names).WellFormed := by
  induction names generalizing tree with
  | nil => exact hwf
  | cons name names ih =>
    cases hwf with
    | file readable bytes => cases names <;> exact .file readable bytes
    | link target => cases names <;> exact .link target
    | special => cases names <;> exact .special
    | @directory readable children hdistinct hnames hbelow =>
      -- A child that is not there is not made up, so no new names come in.
      have hnone : removeBelow names none = none := by simp [removeBelow]
      rw [editAt_remove_cons]
      refine .directory readable (hdistinct.sublist (names_editChildren_sublist hnone)) ?_ ?_
      · intro child hchild
        rcases mem_editChildren hnone hchild with hmem | ⟨old, new, hmem, -, rfl⟩
        · exact hnames child hmem
        · exact hnames (name, old) hmem
      · intro child hchild
        rcases mem_editChildren hnone hchild with hmem | ⟨old, new, hmem, hnew, rfl⟩
        · exact hbelow child hmem
        · rw [removeBelow] at hnew
          split at hnew
          · cases hnew
          · cases hnew
            exact ih (hbelow (name, old) hmem)

/-- What is removed is not there any more, nor is anything below it; all else looks the same. -/
theorem at?_remove {tree : Tree} (hwf : tree.WellFormed) {names : List String} (hne : names ≠ [])
    (other : List String) :
    ((tree.editAt (fun _ => none) names).at? other).map outside =
      if names <+: other then none else (tree.at? other).map outside := by
  induction names generalizing tree other with
  | nil => exact absurd rfl hne
  | cons name names ih =>
    cases hwf with
    | file | link | special =>
      cases other <;> cases names <;> simp [editAt, at?, child?]
    | @directory readable children hdistinct hnames hbelow =>
      rw [editAt_remove_cons]
      cases other with
      | nil => simp [at?, outside]
      | cons next rest =>
        simp only [at?, child?, lookup_editChildren hdistinct, List.cons_prefix_cons]
        -- Either the names part here, or both go on below the same child.
        by_cases hnext : next = name
        · subst hnext
          rw [if_pos rfl, removeBelow]
          by_cases hlast : names = []
          · simp [hlast]
          · rw [if_neg hlast]
            cases hchild : children.lookup next with
            | none => simp
            | some child =>
              have hrest := ih (hbelow (next, child) (Pairs.mem_of_lookup hchild)) hlast rest
              simpa using hrest
        · simp [hnext, Ne.symm hnext]

end Tree

namespace FileSystem

variable {fs other : FileSystem} {gone : List Location} {location : Location}

/-- To remove a path is to take out what stands there. -/
theorem remove_path (hproper : location.IsProper) (hne : location.names ≠ [])
    (hstands : fs.Stands location) :
    fs.remove location.path = fs.edit location fun _ => none := by
  have hparts : (location.path.parts.filter fun part => part ≠ "" ∧ part ≠ ".") =
      location.names := by
    rw [hproper.parts_path hne, List.filter_cons_of_neg (by simp)]
    exact List.filter_eq_self.mpr fun name hname =>
      decide_eq_true ⟨(hproper name hname).ne_empty, (hproper name hname).ne_dot⟩
  -- The directory around it stands, too.
  have hwalk : fs.walk linkLimit .top location.names.dropLast = .ok location.parent :=
    @walk_names fs linkLimit .top _ (fun name hname => hproper.parent name hname) hstands.parent
  have hlocation : location.parent.child (location.names.getLast?.getD ".") = location := by
    rw [Location.child, Location.parent, List.getLast?_eq_some_getLast hne, Option.getD_some,
      List.dropLast_concat_getLast hne]
  simp only [remove, hparts, location.isAbsolute_path, if_true, hwalk, hlocation]

/-- The file system that is left when what stands at some places is removed. -/
def without (fs : FileSystem) (gone : List Location) : FileSystem :=
  gone.foldl (fun fs location => fs.remove location.path) fs

/-- Some files are missing, and everything else looks the same. -/
structure Pruned (gone : List Location) (fs other : FileSystem) : Prop where
  cwd : other.cwd = fs.cwd
  files : ∀ location ∈ gone, ∃ readable bytes, fs.node? location = some (.file readable bytes)
  missing : ∀ location ∈ gone, other.node? location = none
  kept : ∀ location, location ∉ gone →
    (other.node? location).map Tree.outside = (fs.node? location).map Tree.outside

/-- Nothing stands below a file. -/
theorem eq_of_prefix_of_file {readable : Bool} {bytes : ByteArray}
    (hfile : fs.node? location = some (.file readable bytes)) {below : Location}
    (hunder : location.names <+: below.names) : below = location ∨ fs.node? below = none := by
  obtain ⟨names, hnames⟩ := hunder
  -- Either it is the file itself, or there is a name further down.
  cases names with
  | nil => exact .inl (by cases below; cases location; simpa using hnames.symm)
  | cons name names =>
    refine .inr ?_
    rw [node?] at hfile ⊢
    rw [← hnames, Tree.at?_append, hfile]
    rfl

namespace Pruned

/-- What is left has nothing that was not there before. -/
theorem exists_node (hpruned : fs.Pruned gone other) {seen : Tree}
    (hseen : other.node? location = some seen) :
    location ∉ gone ∧ ∃ node, fs.node? location = some node ∧ node.outside = seen.outside := by
  have hkept : location ∉ gone := by
    intro hmem
    rw [hpruned.missing location hmem] at hseen
    cases hseen
  have hsame := hpruned.kept location hkept
  rw [hseen, Option.map_some, eq_comm, Option.map_eq_some_iff] at hsame
  exact ⟨hkept, hsame⟩

/-- What is kept is still there. -/
theorem exists_seen (hpruned : fs.Pruned gone other) (hkept : location ∉ gone) {node : Tree}
    (hnode : fs.node? location = some node) :
    ∃ seen, other.node? location = some seen ∧ seen.outside = node.outside := by
  have hsame := hpruned.kept location hkept
  rw [hnode, Option.map_some, Option.map_eq_some_iff] at hsame
  exact hsame

/-- A file that is kept is the same. -/
theorem node?_eq_file (hpruned : fs.Pruned gone other) (hkept : location ∉ gone) {readable : Bool}
    {bytes : ByteArray} (hfile : fs.node? location = some (.file readable bytes)) :
    other.node? location = some (.file readable bytes) := by
  obtain ⟨seen, hseen, houtside⟩ := hpruned.exists_seen hkept hfile
  cases seen <;> cases houtside
  exact hseen

/-- Where nothing stood, nothing stands. -/
theorem node?_eq_none (hpruned : fs.Pruned gone other) (hnone : fs.node? location = none) :
    other.node? location = none := by
  by_contra hsome
  obtain ⟨seen, hseen⟩ := Option.ne_none_iff_exists'.mp hsome
  obtain ⟨-, node, hnode, -⟩ := hpruned.exists_node hseen
  rw [hnone] at hnode
  cases hnode

/-- All links are kept as they are. -/
theorem node?_eq_link (hpruned : fs.Pruned gone other) {target : Path}
    (hlink : fs.node? location = some (.link target)) :
    other.node? location = some (.link target) := by
  have hkept : location ∉ gone := by
    intro hmem
    obtain ⟨readable, bytes, hfile⟩ := hpruned.files location hmem
    rw [hlink] at hfile
    cases hfile
  obtain ⟨seen, hseen, houtside⟩ := hpruned.exists_seen hkept hlink
  cases seen <;> cases houtside
  exact hseen

/-- Another file is taken out. -/
theorem remove (hpruned : fs.Pruned gone other) (hwf : other.WellFormed)
    (hproper : location.IsProper) (hne : location.names ≠ []) (hnew : location ∉ gone)
    {readable : Bool} {bytes : ByteArray}
    (hfile : fs.node? location = some (.file readable bytes)) :
    fs.Pruned (gone ++ [location]) (other.remove location.path) ∧
      (other.remove location.path).WellFormed := by
  have hother := hpruned.node?_eq_file hnew hfile
  rw [remove_path hproper hne ⟨_, hother, by simp⟩]
  have hnode : ∀ place, ((other.edit location fun _ => none).node? place).map Tree.outside =
      if location.names <+: place.names then none else (other.node? place).map Tree.outside :=
    fun place => Tree.at?_remove hwf.tree hne place.names
  refine ⟨⟨hpruned.cwd, ?_, ?_, ?_⟩, ⟨hwf.tree.remove location.names, hwf.cwd⟩⟩
  · intro place hplace
    rcases List.mem_append.mp hplace with hplace | hplace
    · exact hpruned.files place hplace
    · exact List.mem_singleton.mp hplace ▸ ⟨readable, bytes, hfile⟩
  · intro place hplace
    rw [← Option.map_eq_none_iff (f := Tree.outside), hnode]
    rcases List.mem_append.mp hplace with hplace | hplace
    · rw [hpruned.missing place hplace]
      exact ite_self none
    · rw [List.mem_singleton.mp hplace]
      exact if_pos (List.prefix_refl _)
  · intro place hplace
    rw [List.mem_append, List.mem_singleton, not_or] at hplace
    rw [hnode, ← hpruned.kept place hplace.1]
    split
    · next hunder =>
      -- What goes with the file is only what lies below it, and nothing does.
      rcases eq_of_prefix_of_file hother hunder with hsame | hnone
      · exact absurd hsame hplace.2
      · rw [hnone]
        rfl
    · rfl

end Pruned

/-- When files are removed, nothing else changes. -/
theorem pruned_without (hwf : fs.WellFormed) (hdistinct : gone.Nodup)
    (hgone : ∀ location ∈ gone, location.IsProper ∧ location.names ≠ [] ∧
      ∃ readable bytes, fs.node? location = some (.file readable bytes)) :
    fs.Pruned gone (fs.without gone) ∧ (fs.without gone).WellFormed := by
  -- The files go from first to last, so the last one is taken out of what the others have left.
  induction gone using List.reverseRecOn with
  | nil => exact ⟨⟨rfl, by simp, by simp, fun _ _ => rfl⟩, hwf⟩
  | append_singleton gone location ih =>
    obtain ⟨hearlier, -, hnew⟩ := List.nodup_append.mp hdistinct
    obtain ⟨hpruned, hleft⟩ := ih hearlier fun place hplace =>
      hgone place (List.mem_append_left _ hplace)
    obtain ⟨hproper, hne, readable, bytes, hfile⟩ := hgone location (by simp)
    rw [without, List.foldl_append]
    exact hpruned.remove hleft hproper hne
      (fun hmem => hnew location hmem location (by simp) rfl) hfile

/-! ### Paths -/

/-- From a directory, a name leads down to what stands there, or on from the target of a link. -/
theorem walk_child {readable : Bool} {children : List (String × Tree)} {part : String}
    (hnode : fs.node? location = some (.directory readable children))
    (hskip : ¬(part = "" ∨ part = ".")) (hup : part ≠ "..")
    (hsize : ¬nameLimit < part.utf8ByteSize) (links : Nat) (rest : List String) :
    fs.walk links location (part :: rest) =
      match fs.node? (location.child part) with
      | none => .error .notFound
      | some (.link target) =>
        match links with
        | 0 => .error .tooManyLinks
        | links + 1 =>
          fs.walk links (if target.isAbsolute then .top else location) (target.parts ++ rest)
      | some _ => fs.walk links (location.child part) rest := by
  have hchild : fs.node? (location.child part) = children.lookup part := by
    rw [node?_child, hnode]
    rfl
  rw [walk.eq_def, hnode, hchild]
  exact (if_neg hskip).trans ((if_neg hup).trans (if_neg hsize))

/-- Nothing lies below what is no directory. -/
theorem walk_ne_ok {part : String} {rest : List String} {links : Nat} {result : Location}
    (hnot : ∀ readable children, fs.node? location ≠ some (.directory readable children)) :
    fs.walk links location (part :: rest) ≠ .ok result := by
  intro hwalk
  rw [walk] at hwalk
  split at hwalk
  · next hnode => exact hnot _ _ hnode
  · cases hwalk
  · cases hwalk

namespace Pruned

/-- All directories are kept. -/
theorem directory_iff (hpruned : fs.Pruned gone other) {readable : Bool} :
    (∃ children, other.node? location = some (.directory readable children)) ↔
      ∃ children, fs.node? location = some (.directory readable children) := by
  constructor
  · rintro ⟨children, hseen⟩
    obtain ⟨-, node, hnode, houtside⟩ := hpruned.exists_node hseen
    cases node <;> cases houtside
    exact ⟨_, hnode⟩
  · rintro ⟨children, hnode⟩
    have hkept : location ∉ gone := by
      intro hmem
      obtain ⟨_, _, hfile⟩ := hpruned.files location hmem
      rw [hnode] at hfile
      cases hfile
    obtain ⟨seen, hseen, houtside⟩ := hpruned.exists_seen hkept hnode
    cases seen <;> cases houtside
    exact ⟨_, hseen⟩

/-- A walk leads where it led before, unless it led to a file that is missing. -/
theorem walk_eq_ok_iff (hpruned : fs.Pruned gone other) {links : Nat} {parts : List String}
    {result : Location} (hstart : parts ≠ [] ∨ location ∉ gone) :
    other.walk links location parts = .ok result ↔
      fs.walk links location parts = .ok result ∧ result ∉ gone := by
  fun_induction walk fs links location parts with
  | case1 links location =>
    have hkept : location ∉ gone := by simpa using hstart
    rw [walk]
    exact ⟨by rintro ⟨⟩; exact ⟨rfl, hkept⟩, And.left⟩
  | case2 links location part rest readable children hnode hskip ih =>
    obtain ⟨others, hother⟩ := hpruned.directory_iff.mpr ⟨children, hnode⟩
    rw [walk, hother]
    simp only [if_pos hskip]
    exact ih (.inr (hpruned.exists_node hother).1)
  | case3 links location rest readable children hnode hskip ih =>
    obtain ⟨others, hother⟩ := hpruned.directory_iff.mpr ⟨children, hnode⟩
    rw [walk, hother]
    simp only [if_neg hskip, if_true]
    -- Above a directory there is another one.
    obtain ⟨above, habove, -⟩ := (stands_of_directory hother).parent
    exact ih (.inr (hpruned.exists_node habove).1)
  | case4 links location part rest readable children hnode hskip hup hsize =>
    obtain ⟨others, hother⟩ := hpruned.directory_iff.mpr ⟨children, hnode⟩
    rw [walk, hother]
    simp [if_neg hskip, if_neg hup, if_pos hsize]
  | case5 links location part rest readable children hnode hskip hup hsize hlookup =>
    obtain ⟨others, hother⟩ := hpruned.directory_iff.mpr ⟨children, hnode⟩
    have hnone : other.node? (location.child part) = none :=
      hpruned.node?_eq_none (by rw [node?_child, hnode]; exact hlookup)
    simp [walk_child hother hskip hup hsize, hnone]
  | case6 location part rest readable children hnode hskip hup hsize target hlookup =>
    obtain ⟨others, hother⟩ := hpruned.directory_iff.mpr ⟨children, hnode⟩
    have hlink := hpruned.node?_eq_link (by rw [node?_child, hnode]; exact hlookup)
    simp [walk_child hother hskip hup hsize, hlink]
  | case7 location part rest readable children hnode hskip hup hsize target hlookup left start ih =>
    obtain ⟨others, hother⟩ := hpruned.directory_iff.mpr ⟨children, hnode⟩
    have hlink := hpruned.node?_eq_link (by rw [node?_child, hnode]; exact hlookup)
    rw [walk_child hother hskip hup hsize, hlink]
    -- A link need not lead to where it starts from, but its target has parts.
    exact ih (.inl (by simp [target.parts_ne_nil]))
  | case8 links location part rest readable children hnode hskip hup hsize child hlink hlookup ih =>
    obtain ⟨others, hother⟩ := hpruned.directory_iff.mpr ⟨children, hnode⟩
    have hchild : fs.node? (location.child part) = some child := by
      rw [node?_child, hnode]
      exact hlookup
    rw [walk_child hother hskip hup hsize]
    by_cases hgone : location.child part ∈ gone
    · -- A walk that led to this file ended there.
      obtain ⟨found, bytes, hfile⟩ := hpruned.files _ hgone
      rw [hpruned.missing _ hgone]
      constructor
      · intro hmissing
        cases hmissing
      · rintro ⟨hwalk, hkept⟩
        cases rest with
        | nil =>
          rw [walk] at hwalk
          cases hwalk
          exact absurd hgone hkept
        | cons next rest => exact absurd hwalk (walk_ne_ok (by simp [hfile]))
    · obtain ⟨seen, hseen, houtside⟩ := hpruned.exists_seen hgone hchild
      rw [hseen]
      cases seen with
      | file | directory | special => exact ih (.inr hgone)
      | link target =>
        cases child <;> cases houtside
        exact absurd rfl (hlink target)
  | case9 links location part rest node hno hnode =>
    have hnot : ∀ readable children, fs.node? location ≠ some (.directory readable children) := by
      intro readable children hdirectory
      rw [hnode, Option.some.injEq] at hdirectory
      exact hno readable children hdirectory
    have hother : ∀ readable children,
        other.node? location ≠ some (.directory readable children) := by
      intro readable children hdirectory
      obtain ⟨_, hbefore⟩ := hpruned.directory_iff.mp ⟨children, hdirectory⟩
      exact hnot _ _ hbefore
    simp [walk_ne_ok hother]
  | case10 links location part rest hnode =>
    have hother : ∀ readable children,
        other.node? location ≠ some (.directory readable children) := by
      simp [hpruned.node?_eq_none hnode]
    simp [walk_ne_ok hother]

/-- A path leads where it led before, unless it led to a file that is missing. -/
theorem canonicalize_eq_ok_iff (hpruned : fs.Pruned gone other) {path : Path}
    {result : Location} :
    other.canonicalize path = .ok result ↔
      fs.canonicalize path = .ok result ∧ result ∉ gone := by
  unfold canonicalize
  rw [hpruned.cwd]
  split
  · simp
  · split
    · simp
    · split
      · simp
      · exact hpruned.walk_eq_ok_iff (.inl path.parts_ne_nil)

/-- A place that is kept is looked at with the same result, but for what lies below it. -/
theorem stat_path (hpruned : fs.Pruned gone other) (hproper : location.IsProper)
    (hne : location.names ≠ []) (hstands : fs.Stands location) (hkept : location ∉ gone) :
    (∃ cause, fs.stat location.path = .error cause ∧ other.stat location.path = .error cause) ∨
      ∃ node seen, fs.stat location.path = .ok node ∧ other.stat location.path = .ok seen ∧
        seen.outside = node.outside := by
  obtain ⟨node, hnode, hno⟩ := id hstands
  obtain ⟨seen, hseen, houtside⟩ := hpruned.exists_seen hkept hnode
  have hotherStands : other.Stands location := by
    refine ⟨seen, hseen, fun target hlink => ?_⟩
    subst hlink
    cases node with
    | file | directory | special => cases houtside
    | link target => exact hno target rfl
  -- The path leads to the place in both, or is refused before it is followed.
  have hcanonical : other.canonicalize location.path = fs.canonicalize location.path := by
    unfold canonicalize
    rw [if_pos location.isAbsolute_path, if_pos location.isAbsolute_path,
      walk_parts_path hproper hne hotherStands, walk_parts_path hproper hne hstands]
  unfold stat
  rw [hcanonical]
  cases hresult : fs.canonicalize location.path with
  | error cause => exact .inl ⟨cause, rfl, rfl⟩
  | ok result =>
    rw [FileSystem.eq_of_canonicalize_path hproper hstands hresult]
    simp only [bind, Except.bind, hnode, hseen]
    exact .inr ⟨node, seen, rfl, rfl, houtside⟩

/-- A file that is kept reads the same. -/
theorem readText_path (hpruned : fs.Pruned gone other) (hproper : location.IsProper)
    (hne : location.names ≠ []) (hstands : fs.Stands location) (hkept : location ∉ gone) :
    other.readText location.path = fs.readText location.path := by
  unfold readText
  rcases hpruned.stat_path hproper hne hstands hkept with
    ⟨cause, hstat, hother⟩ | ⟨node, seen, hstat, hother, houtside⟩
  · rw [hstat, hother]
  · rw [hstat, hother]
    cases node <;> cases seen <;> cases houtside <;> rfl

/-- A directory that cannot be listed could not be listed before, for the same reason. -/
theorem readDirectory_path (hpruned : fs.Pruned gone other) (hproper : location.IsProper)
    (hne : location.names ≠ []) (hstands : fs.Stands location) (hkept : location ∉ gone)
    {cause : IoError} (hcause : other.readDirectory location.path = .error cause) :
    fs.readDirectory location.path = .error cause := by
  unfold readDirectory at hcause ⊢
  rcases hpruned.stat_path hproper hne hstands hkept with
    ⟨again, hstat, hother⟩ | ⟨node, seen, hstat, hother, houtside⟩
  · rw [hother] at hcause
    rw [hstat]
    exact hcause
  · rw [hother] at hcause
    rw [hstat]
    cases node with
    | directory readable children =>
      cases seen <;> cases houtside
      cases readable with
      | true => cases hcause
      | false => exact hcause
    | file | link | special =>
      cases seen <;> cases houtside
      exact hcause

end Pruned

end FileSystem

end TemplateCatalog
