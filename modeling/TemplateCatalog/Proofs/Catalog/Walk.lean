import Mathlib.Data.List.Nodup
import TemplateCatalog.Catalog.Service
import TemplateCatalog.Proofs.Catalog.Remembered
import TemplateCatalog.Proofs.Tree.Canonical

/-!
# Walks over remembered listings

What a walk over a content tree comes across, described by what its listings are. A walk never
leaves the directory that it starts from, so it is enough to know the listings below that directory.

Main statements:

* `Scan.ensures_walkEntries`: a walk over the entries of a directory, described entry by entry.
* `Scan.ensures_scan`: a scan keeps the invariant that its listings keep.
* `Scan.ensures_scan_eq`: a scan whose listings are all real ones finds what a scan without a
  memory finds.
* `Scan.ensures_scan_isSorted`, `Scan.ensures_scan_isProper`, `Scan.ensures_scan_registryApart`: a
  scan whose listings are proper comes across no place twice, nor across the registry.
-/

namespace TemplateCatalog

namespace Location

/-- A location lies within another one if its names go on from there. -/
theorem isWithin_iff {outer location : Location} :
    outer.isWithin location = true ↔ outer.names <+: location.names := by
  rw [isWithin, List.isPrefixOf_iff_prefix]

theorem isWithin_trans {a b c : Location} (hab : a.isWithin b = true)
    (hbc : b.isWithin c = true) : a.isWithin c = true := by
  rw [isWithin_iff] at *
  exact hab.trans hbc

theorem isWithin_self_child (location : Location) (name : String) :
    location.isWithin (location.child name) = true :=
  isWithin_child name location.isWithin_self

/-- No place lies below two children of one directory. -/
theorem eq_of_isWithin_child {directory location : Location} {a b : String}
    (ha : (directory.child a).isWithin location = true)
    (hb : (directory.child b).isWithin location = true) : a = b := by
  rw [isWithin_iff] at ha hb
  -- Both children are prefixes of the location, of one length.
  have hprefix := List.prefix_of_prefix_length_le ha hb (by simp [child])
  have hequal := hprefix.eq_of_length (by simp [child])
  simpa [child] using hequal

theorem namesLe_total (a b : List String) : namesLe a b = true ∨ namesLe b a = true := by
  induction a generalizing b with
  | nil => exact .inl rfl
  | cons name names ih =>
    cases b with
    | nil => exact .inr rfl
    | cons other others =>
      simp only [namesLe, Bool.or_eq_true, Bool.and_eq_true, decide_eq_true_eq, beq_iff_eq]
      by_cases hless : name < other
      · exact .inl (.inl hless)
      · by_cases hmore : other < name
        · exact .inr (.inl hmore)
        · -- Neither name comes first, so the rest decides.
          have hsame : name = other :=
            String.le_antisymm (String.not_lt.mp hmore) (String.not_lt.mp hless)
          subst hsame
          exact (ih others).imp (fun hrest => .inr ⟨rfl, hrest⟩) (fun hrest => .inr ⟨rfl, hrest⟩)

theorem namesLe_trans {a b c : List String} (hab : namesLe a b = true)
    (hbc : namesLe b c = true) : namesLe a c = true := by
  induction a generalizing b c with
  | nil => rfl
  | cons x xs ih =>
    cases b with
    | nil => cases hab
    | cons y ys =>
      cases c with
      | nil => cases hbc
      | cons z zs =>
        simp only [namesLe, Bool.or_eq_true, Bool.and_eq_true, decide_eq_true_eq,
          beq_iff_eq] at *
        rcases hab with hxy | ⟨rfl, hxy⟩ <;> rcases hbc with hyz | ⟨rfl, hyz⟩
        · exact .inl (String.lt_trans hxy hyz)
        · exact .inl hxy
        · exact .inl hyz
        · exact .inr ⟨rfl, ih hxy hyz⟩

theorem namesLe_antisymm {a b : List String} (hab : namesLe a b = true)
    (hba : namesLe b a = true) : a = b := by
  induction a generalizing b with
  | nil =>
    cases b with
    | nil => rfl
    | cons => cases hba
  | cons name names ih =>
    cases b with
    | nil => cases hab
    | cons other others =>
      simp only [namesLe, Bool.or_eq_true, Bool.and_eq_true, decide_eq_true_eq,
        beq_iff_eq] at hab hba
      rcases hab with hless | ⟨rfl, hab⟩
      · rcases hba with hmore | ⟨rfl, -⟩
        · exact absurd (String.lt_trans hless hmore) (String.lt_irrefl name)
        · exact absurd hless (String.lt_irrefl other)
      · rcases hba with hmore | ⟨-, hba⟩
        · exact absurd hmore (String.lt_irrefl name)
        · rw [ih hab hba]

/-- Locations come in one strictly ascending order only. -/
theorem eq_of_ascending {locations others : List Location}
    (hlocations : locations.Pairwise fun a b => a.le b = true ∧ a ≠ b)
    (hothers : others.Pairwise fun a b => a.le b = true ∧ a ≠ b)
    (hsame : ∀ location, location ∈ locations ↔ location ∈ others) : locations = others := by
  have hnodup : ∀ {list : List Location},
      (list.Pairwise fun a b => a.le b = true ∧ a ≠ b) → list.Nodup :=
    fun hlist => hlist.imp And.right
  have hperm := (List.perm_ext_iff_of_nodup (hnodup hlocations) (hnodup hothers)).mpr hsame
  refine hperm.eq_of_pairwise (fun a b _ _ hab hba => ?_) hlocations hothers
  -- Of two different locations only one comes before the other.
  have hnames := namesLe_antisymm hab.1 hba.1
  cases a
  cases b
  exact congrArg Location.mk hnames

/-- Sorted locations are in ascending order. -/
theorem pairwise_sort (locations : List Location) :
    (sort locations).Pairwise fun a b => a.le b = true := by
  refine List.pairwise_mergeSort (fun a b c hab hbc => ?_) (fun a b => ?_) locations
  · exact namesLe_trans hab hbc
  · rw [Bool.or_eq_true]
    exact namesLe_total a.names b.names

end Location

/-- The place of what a walk comes across. -/
def Finding.location : Finding → Location
  | .document location => location
  | .partialFile location => location
  | .unlistable directory _ => directory

/-- All places that a scan has found something at, except for the registry. -/
def Findings.locations (findings : Findings) : List Location :=
  findings.failures.map Prod.fst ++ findings.partials ++ findings.documents

/-- The findings of a scan lie at different places, documents and partials in the order of their
locations. -/
structure Findings.IsSorted (findings : Findings) : Prop where
  documents_sorted : findings.documents.Pairwise fun a b => a.le b = true
  partials_sorted : findings.partials.Pairwise fun a b => a.le b = true
  distinct : findings.locations.Nodup

/-- The findings of a scan lie at different proper places below the root, documents and partials in
the order of their locations. -/
structure Findings.IsProper (findings : Findings) : Prop extends findings.IsSorted where
  proper : ∀ location ∈ findings.locations, location.IsProper ∧ location.names ≠ []

/-- The registry that was found is one of the files that may be a registry, directly in the root,
and it was found as nothing else. -/
def Findings.RegistryApart (root : Location) (findings : Findings) : Prop :=
  ∀ location, findings.registry = some location →
    (∃ name ∈ Registry.fileNames, location = root.child name) ∧ location.IsProper ∧
      location ∉ findings.locations

namespace Scan

variable {σ : Type} {inv : σ → Prop} {outer : Location}
  {list : Location → StateM σ (Except IoError Listing)}

/-- Scan the content tree below a root, going at most so many levels down from the directories in
the root. -/
def scanTo {m : Type → Type} [Monad m] (levels : Nat)
    (list : Location → m (Except IoError Listing)) (root : Location) :
    m (Except IoError Findings) := do
  match ← list root with
  | .error cause => return .error cause
  | .ok listing =>
    let entries := listing.filter fun entry => !isRegistry entry
    let found ← walkEntries (walk list levels) false root entries
    return .ok (collect (registryIn root listing) found)

/-- A scan goes as many levels down as a path can have. -/
theorem scan_eq_scanTo {m : Type → Type} [Monad m] (list : Location → m (Except IoError Listing))
    (root : Location) : scan list root = scanTo pathLimit list root := rfl

/-! ### Walks over entries -/

/-- What a walk does at one entry of a directory: it goes down, or it looks at the file. -/
def visit {m : Type → Type} [Monad m] (down : Bool → Location → m (List Finding))
    (inPartials : Bool) (directory : Location) (entry : ListingEntry) : m (List Finding) :=
  match entry.kind with
  | .directory => down (inPartials || entry.name == partialsName) (directory.child entry.name)
  | .file => pure (Finding.ofFile inPartials (directory.child entry.name))

theorem walkEntries_cons {m : Type → Type} [Monad m] (down : Bool → Location → m (List Finding))
    (inPartials : Bool) (directory : Location) (entry : ListingEntry) (entries : Listing) :
    walkEntries down inPartials directory (entry :: entries) = do
      let found ← visit down inPartials directory entry
      return found ++ (← walkEntries down inPartials directory entries) := by
  obtain ⟨name, kind⟩ := entry
  cases kind <;> rfl

theorem run_walkEntries_cons (down : Bool → Location → Id (List Finding)) (inPartials : Bool)
    (directory : Location) (entry : ListingEntry) (entries : Listing) :
    Id.run (walkEntries (m := Id) down inPartials directory (entry :: entries)) =
      Id.run (visit (m := Id) down inPartials directory entry) ++
        Id.run (walkEntries (m := Id) down inPartials directory entries) := by
  rw [walkEntries_cons]
  rfl

theorem run_walk_succ (fs : FileSystem) (levels : Nat) (inPartials : Bool) (directory : Location) :
    Id.run (walk (m := Id) fs.listing (levels + 1) inPartials directory) =
      match fs.listing directory with
      | .error cause => [.unlistable directory cause]
      | .ok listing =>
        Id.run (walkEntries (m := Id) (walk (m := Id) fs.listing levels) inPartials directory
          listing) := by
  simp only [walk, Id.run, bind]
  cases fs.listing directory <;> rfl

/-- What a scan that goes so many levels down comes across, if its root has the listing. -/
def found (fs : FileSystem) (levels : Nat) (root : Location) (listing : Listing) : List Finding :=
  Id.run (walkEntries (m := Id) (walk (m := Id) fs.listing levels) false root
    (listing.filter fun entry => !isRegistry entry))

/-- What a scan of so many levels comes to, if its root can be listed. -/
theorem run_scanTo_of_listing {fs : FileSystem} {levels : Nat} {root : Location} {listing : Listing}
    (hlisting : fs.listing root = .ok listing) :
    Id.run (scanTo (m := Id) levels fs.listing root) =
      .ok (collect (registryIn root listing) (found fs levels root listing)) := by
  simp only [scanTo, Id.run, bind, hlisting]
  rfl

theorem ensures_visit {down : Bool → Location → StateM σ (List Finding)} {inPartials : Bool}
    {directory : Location} {entry : ListingEntry} {post : List Finding → Prop}
    (hdown : ∀ inside, Ensures inv (down inside (directory.child entry.name)) post)
    (hfile : post (Finding.ofFile inPartials (directory.child entry.name))) :
    Ensures inv (visit down inPartials directory entry) post := by
  unfold visit
  split
  · exact hdown _
  · exact .pure hfile

/-- What is found at the entries of a directory is described entry by entry. -/
theorem ensures_walkEntries {down : Bool → Location → StateM σ (List Finding)} {inPartials : Bool}
    {directory : Location} {below : ListingEntry → List Finding → Prop}
    (among : Listing → List Finding → Prop) (hnil : among [] [])
    (hcons : ∀ entry entries found rest, below entry found → among entries rest →
      among (entry :: entries) (found ++ rest))
    {listing : Listing}
    (hvisit : ∀ entry ∈ listing,
      Ensures inv (visit down inPartials directory entry) (below entry)) :
    Ensures inv (walkEntries down inPartials directory listing) (among listing) := by
  induction listing with
  | nil => exact .pure hnil
  | cons entry entries ih =>
    have hrest := ih fun other hother => hvisit other (List.mem_cons_of_mem _ hother)
    rw [walkEntries_cons]
    exact Ensures.bind (hvisit entry List.mem_cons_self) fun found hfound =>
      Ensures.bind hrest fun rest hrest => .pure (hcons entry entries found rest hfound hrest)

/-! ### Walks that keep an invariant -/

section Keep

theorem ensures_walkEntries_keep {down : Bool → Location → StateM σ (List Finding)}
    (hdown : ∀ inside location, Ensures inv (down inside location) fun _ => True)
    (inPartials : Bool) (directory : Location) (listing : Listing) :
    Ensures inv (walkEntries down inPartials directory listing) fun _ => True :=
  ensures_walkEntries (fun _ _ => True) trivial (fun _ _ _ _ _ _ => trivial) fun _ _ =>
    ensures_visit (fun inside => hdown inside _) trivial

theorem ensures_walk (hlist : ∀ directory, Ensures inv (list directory) fun _ => True)
    (levels : Nat) (inPartials : Bool) (directory : Location) :
    Ensures inv (walk list levels inPartials directory) fun _ => True := by
  induction levels generalizing inPartials directory with
  | zero => exact .pure trivial
  | succ levels ih =>
    refine Ensures.bind (hlist directory) fun result _ => ?_
    cases result with
    | error cause => exact .pure trivial
    | ok listing => exact ensures_walkEntries_keep ih inPartials directory listing

/-- A scan keeps what its listings keep. -/
theorem ensures_scan (hlist : ∀ directory, Ensures inv (list directory) fun _ => True)
    (root : Location) : Ensures inv (scan list root) fun _ => True := by
  refine Ensures.bind (hlist root) fun result _ => ?_
  cases result with
  | error cause => exact .pure trivial
  | ok listing =>
    exact Ensures.bind (ensures_walkEntries_keep (ensures_walk hlist pathLimit) false root _)
      fun _ _ => .pure trivial

end Keep

/-! ### Walks that see real listings -/

section Real

variable {actual : Location → Except IoError Listing}

/-- A walk over entries comes across what it would come across if going down had no effects. -/
theorem ensures_walkEntries_eq {down : Bool → Location → StateM σ (List Finding)}
    {seen : Bool → Location → List Finding}
    (hdown : ∀ inside location, outer.isWithin location = true →
      Ensures inv (down inside location) (· = seen inside location))
    (inPartials : Bool) {directory : Location} (hwithin : outer.isWithin directory = true)
    (listing : Listing) :
    Ensures inv (walkEntries down inPartials directory listing)
      (· = Id.run (walkEntries (m := Id) seen inPartials directory listing)) := by
  have hvisit : ∀ entry, Ensures inv (visit down inPartials directory entry)
      (· = Id.run (visit (m := Id) seen inPartials directory entry)) := by
    intro entry
    unfold visit
    cases entry.kind with
    | directory => exact hdown _ _ (Location.isWithin_child entry.name hwithin)
    | file => exact .pure rfl
  refine ensures_walkEntries
    (fun entries found => found = Id.run (walkEntries (m := Id) seen inPartials directory entries))
    rfl ?_ fun entry _ => hvisit entry
  rintro entry entries found rest rfl rfl
  rw [walkEntries_cons]
  rfl

/-- A walk whose listings below `outer` are all real ones comes across what a walk over the real
listings comes across. -/
theorem ensures_walk_eq
    (hlist : ∀ directory, outer.isWithin directory = true →
      Ensures inv (list directory) (· = actual directory))
    (levels : Nat) (inPartials : Bool) {directory : Location}
    (hwithin : outer.isWithin directory = true) :
    Ensures inv (walk list levels inPartials directory)
      (· = Id.run (walk (m := Id) actual levels inPartials directory)) := by
  induction levels generalizing inPartials directory with
  | zero => exact .pure rfl
  | succ levels ih =>
    refine Ensures.bind (hlist directory hwithin) fun result hresult => ?_
    subst hresult
    cases hactual : actual directory with
    | error cause =>
      refine .pure ?_
      simp only [walk, Id.run, bind, hactual]
      rfl
    | ok listing =>
      have hwalk : Id.run (walk (m := Id) actual (levels + 1) inPartials directory) =
          Id.run (walkEntries (m := Id) (walk (m := Id) actual levels) inPartials directory
            listing) := by
        simp only [walk, Id.run, bind, hactual]
      rw [hwalk]
      exact ensures_walkEntries_eq (fun inside location hlocation => ih inside hlocation)
        inPartials hwithin listing

/-- A scan that goes at most so many levels down and whose listings are all real ones finds what
such a scan over the real listings finds. -/
theorem ensures_scanTo_eq (levels : Nat) {root : Location}
    (hlist : ∀ directory, outer.isWithin directory = true →
      Ensures inv (list directory) (· = actual directory))
    (hwithin : outer.isWithin root = true) :
    Ensures inv (scanTo levels list root) (· = Id.run (scanTo (m := Id) levels actual root)) := by
  refine Ensures.bind (hlist root hwithin) fun result hresult => ?_
  subst hresult
  cases hroot : actual root with
  | error cause =>
    refine .pure ?_
    simp only [scanTo, Id.run, bind, hroot]
    rfl
  | ok listing =>
    refine Ensures.bind (ensures_walkEntries_eq
      (fun inside location hlocation => ensures_walk_eq hlist levels inside hlocation)
      false hwithin _) fun found hfound => .pure ?_
    subst hfound
    simp only [scanTo, Id.run, bind, hroot]
    rfl

/-- A scan whose listings are all real ones finds what a scan over the real listings finds. -/
theorem ensures_scan_eq {root : Location}
    (hlist : ∀ directory, outer.isWithin directory = true →
      Ensures inv (list directory) (· = actual directory))
    (hwithin : outer.isWithin root = true) :
    Ensures inv (scan list root) (· = Id.run (scan (m := Id) actual root)) :=
  ensures_scanTo_eq pathLimit hlist hwithin

end Real

/-! ### Walks that see proper listings -/

section Proper

/-- What a walk comes across below a place: no two findings at one location, and proper locations if
the place is proper. -/
structure ProperBelow (place : Location) (found : List Finding) : Prop where
  distinct : (found.map Finding.location).Nodup
  proper : place.IsProper → ∀ finding ∈ found, finding.location.IsProper
  within : ∀ finding ∈ found, place.isWithin finding.location = true

theorem properBelow_singleton {place : Location} {finding : Finding}
    (hplace : finding.location = place) : ProperBelow place [finding] where
  distinct := by simp
  proper := by simp [hplace]
  within := by simpa [hplace] using place.isWithin_self

theorem properBelow_ofFile (inPartials : Bool) (place : Location) :
    ProperBelow place (Finding.ofFile inPartials place) := by
  unfold Finding.ofFile
  split
  · exact properBelow_singleton rfl
  · split
    · exact properBelow_singleton rfl
    · exact ⟨.nil, by simp, by simp⟩

/-- What a walk over entries of a directory comes across: every finding lies below the child that
some entry stands for, and no two lie at one place. -/
structure ProperAmong (directory : Location) (listing : Listing) (found : List Finding) : Prop where
  distinct : (found.map Finding.location).Nodup
  proper : directory.IsProper → ∀ finding ∈ found, finding.location.IsProper
  among : ∀ finding ∈ found, ∃ entry ∈ listing,
    (directory.child entry.name).isWithin finding.location = true

/-- What is found below one child is not found below the children of other names. -/
theorem ProperAmong.cons {directory : Location} {entry : ListingEntry} {entries : Listing}
    {found rest : List Finding} (hname : IsEntryName entry.name)
    (hnew : entry.name ∉ entries.map ListingEntry.name)
    (hfound : ProperBelow (directory.child entry.name) found)
    (hrest : ProperAmong directory entries rest) :
    ProperAmong directory (entry :: entries) (found ++ rest) where
  distinct := by
    rw [List.map_append, List.nodup_append]
    refine ⟨hfound.distinct, hrest.distinct, fun a ha b hb hab => ?_⟩
    obtain ⟨left, hleft, rfl⟩ := List.mem_map.mp ha
    obtain ⟨right, hright, rfl⟩ := List.mem_map.mp hb
    obtain ⟨other, hother, hwithin⟩ := hrest.among right hright
    rw [← hab] at hwithin
    -- A place below two children would make the names of two entries the same.
    have hsame := Location.eq_of_isWithin_child (hfound.within left hleft) hwithin
    exact hnew (hsame ▸ List.mem_map_of_mem hother)
  proper := by
    intro hproper finding hfinding
    rcases List.mem_append.mp hfinding with hfinding | hfinding
    · exact hfound.proper (hproper.child hname) finding hfinding
    · exact hrest.proper hproper finding hfinding
  among := by
    intro finding hfinding
    rcases List.mem_append.mp hfinding with hfinding | hfinding
    · exact ⟨entry, List.mem_cons_self, hfound.within finding hfinding⟩
    · obtain ⟨other, hother, hwithin⟩ := hrest.among finding hfinding
      exact ⟨other, List.mem_cons_of_mem _ hother, hwithin⟩

theorem ProperAmong.properBelow {directory : Location} {listing : Listing} {found : List Finding}
    (hamong : ProperAmong directory listing found) : ProperBelow directory found where
  distinct := hamong.distinct
  proper := hamong.proper
  within := by
    intro finding hfinding
    obtain ⟨entry, -, hwithin⟩ := hamong.among finding hfinding
    exact Location.isWithin_trans (directory.isWithin_self_child entry.name) hwithin

/-- A walk over proper entries comes across different places, if going down does. -/
theorem ensures_walkEntries_proper {down : Bool → Location → StateM σ (List Finding)}
    (hdown : ∀ inside location, Ensures inv (down inside location) (ProperBelow location))
    (inPartials : Bool) (directory : Location) {listing : Listing} (hlisting : listing.IsProper) :
    Ensures inv (walkEntries down inPartials directory listing)
      (ProperAmong directory listing) := by
  have hvisit : ∀ entry ∈ listing, Ensures inv (visit down inPartials directory entry)
      (ProperBelow (directory.child entry.name)) :=
    fun entry _ => ensures_visit (fun inside => hdown inside _)
      (properBelow_ofFile inPartials (directory.child entry.name))
  refine (ensures_walkEntries (fun entries found =>
    entries.IsProper → ProperAmong directory entries found)
      (fun _ => ⟨.nil, by simp, by simp⟩) ?_ hvisit).mono fun found hfound => hfound hlisting
  intro entry entries found rest hfound hrest hproper
  obtain ⟨hnew, hothers⟩ := List.nodup_cons.mp hproper.distinct
  have hentries : Listing.IsProper entries :=
    ⟨hothers, fun other hother => hproper.names other (List.mem_cons_of_mem _ hother)⟩
  exact (hrest hentries).cons (hproper.names entry List.mem_cons_self) hnew hfound

/-- A walk whose listings are proper comes across different places. -/
theorem ensures_walk_proper
    (hlist : ∀ directory, Ensures inv (list directory) fun result =>
      ∀ listing, result = .ok listing → listing.IsProper)
    (levels : Nat) (inPartials : Bool) (directory : Location) :
    Ensures inv (walk list levels inPartials directory) (ProperBelow directory) := by
  induction levels generalizing inPartials directory with
  | zero => exact .pure ⟨.nil, by simp, by simp⟩
  | succ levels ih =>
    refine Ensures.bind (hlist directory) fun result hresult => ?_
    cases result with
    | error cause => exact .pure (properBelow_singleton rfl)
    | ok listing =>
      exact (ensures_walkEntries_proper ih inPartials directory
        (hresult listing rfl)).mono fun _ hamong => hamong.properBelow

/-- Sorting the findings by what they are loses none of them and keeps their places. -/
theorem perm_locations_collect (registry : Option Location) (found : List Finding) :
    (collect registry found).locations.Perm (found.map Finding.location) := by
  have hsplit : ((found.filterMap Finding.unlistable?).map Prod.fst ++
      found.filterMap Finding.partial? ++ found.filterMap Finding.document?).Perm
        (found.map Finding.location) := by
    induction found with
    | nil => exact .nil
    | cons finding found ih =>
      cases finding with
      | document location =>
        simp only [List.filterMap_cons, Finding.unlistable?, Finding.partial?, Finding.document?,
          List.map_cons, Finding.location]
        exact List.perm_middle.trans (ih.cons location)
      | partialFile location =>
        simp only [List.filterMap_cons, Finding.unlistable?, Finding.partial?, Finding.document?,
          List.map_cons, Finding.location, List.append_assoc]
        rw [List.append_assoc] at ih
        exact List.perm_middle.trans (ih.cons location)
      | unlistable directory cause =>
        simp only [List.filterMap_cons, Finding.unlistable?, Finding.partial?, Finding.document?,
          List.map_cons, Finding.location, List.cons_append]
        exact ih.cons directory
  refine List.Perm.trans ?_ hsplit
  exact ((List.Perm.refl _).append (List.mergeSort_perm _ _)).append (List.mergeSort_perm _ _)

/-- A scan whose listings are proper collects what it comes across below the entries of the root
that are no registries. -/
theorem ensures_scan_among (root : Location)
    (hlist : ∀ directory, Ensures inv (list directory) fun result =>
      ∀ listing, result = .ok listing → listing.IsProper) :
    Ensures inv (scan list root) fun result => ∀ findings, result = .ok findings →
      ∃ listing found, listing.IsProper ∧
        ProperAmong root (listing.filter fun entry => !isRegistry entry) found ∧
          findings = collect (registryIn root listing) found := by
  refine Ensures.bind (hlist root) fun result hresult => ?_
  cases result with
  | error cause => exact .pure (by simp)
  | ok listing =>
    have hlisting := hresult listing rfl
    -- The registry is left out before the walk begins.
    have hentries : Listing.IsProper (listing.filter fun entry => !isRegistry entry) :=
      ⟨hlisting.distinct.sublist (List.filter_sublist.map _),
        fun entry hentry => hlisting.names entry (List.mem_filter.mp hentry).1⟩
    refine Ensures.bind (ensures_walkEntries_proper (ensures_walk_proper hlist pathLimit) false root
      hentries) fun found hfound => .pure ?_
    rintro findings ⟨⟩
    exact ⟨listing, found, hlisting, hfound, rfl⟩

/-- A scan whose listings are proper finds different places, documents and partials in the order of
their locations. -/
theorem ensures_scan_isSorted (root : Location)
    (hlist : ∀ directory, Ensures inv (list directory) fun result =>
      ∀ listing, result = .ok listing → listing.IsProper) :
    Ensures inv (scan list root) fun result =>
      ∀ findings, result = .ok findings → findings.IsSorted := by
  refine (ensures_scan_among root hlist).mono fun result hresult findings hfindings => ?_
  obtain ⟨listing, found, -, hfound, rfl⟩ := hresult findings hfindings
  have hperm := perm_locations_collect (registryIn root listing) found
  exact ⟨Location.pairwise_sort _, Location.pairwise_sort _, hperm.nodup_iff.mpr hfound.distinct⟩

/-- A scan whose listings are proper finds different places below the root. -/
theorem ensures_scan_isProper {root : Location} (hroot : root.IsProper)
    (hlist : ∀ directory, Ensures inv (list directory) fun result =>
      ∀ listing, result = .ok listing → listing.IsProper) :
    Ensures inv (scan list root) fun result =>
      ∀ findings, result = .ok findings → findings.IsProper := by
  refine ((ensures_scan_isSorted root hlist).and (ensures_scan_among root hlist)).mono
    fun result hresult findings hfindings => ?_
  obtain ⟨hsorted, hamong⟩ := hresult
  obtain ⟨listing, found, -, hfound, rfl⟩ := hamong findings hfindings
  refine ⟨hsorted _ hfindings, fun location hlocation => ?_⟩
  have hperm := perm_locations_collect (registryIn root listing) found
  obtain ⟨finding, hfinding, rfl⟩ := List.mem_map.mp (hperm.mem_iff.mp hlocation)
  refine ⟨hfound.proper hroot finding hfinding, fun hnil => ?_⟩
  -- Whatever is found lies below a child of the root, so it is not the top.
  obtain ⟨entry, -, hwithin⟩ := hfound.among finding hfinding
  rw [Location.isWithin_iff, hnil, List.prefix_nil] at hwithin
  simp [Location.child] at hwithin

/-- The registry that a scan finds stands directly in the root, and it is found as nothing else. -/
theorem ensures_scan_registryApart {root : Location} (hroot : root.IsProper)
    (hlist : ∀ directory, Ensures inv (list directory) fun result =>
      ∀ listing, result = .ok listing → listing.IsProper) :
    Ensures inv (scan list root) fun result =>
      ∀ findings, result = .ok findings → findings.RegistryApart root := by
  refine (ensures_scan_among root hlist).mono fun result hresult findings hfindings => ?_
  obtain ⟨listing, found, hlisting, hfound, rfl⟩ := hresult findings hfindings
  intro location hlocation
  obtain ⟨name, hchosen, rfl⟩ := Option.map_eq_some_iff.mp hlocation
  rw [Registry.chooseName?] at hchosen
  have hpresent := List.find?_some hchosen
  obtain ⟨entry, hentry, hregistry⟩ := List.any_eq_true.mp hpresent
  rw [Bool.and_eq_true, beq_iff_eq] at hregistry
  obtain ⟨hregistry, rfl⟩ := hregistry
  refine ⟨⟨_, List.mem_of_find?_eq_some hchosen, rfl⟩,
    hroot.child (hlisting.names entry hentry), fun hmem => ?_⟩
  obtain ⟨finding, hfinding, hsame⟩ :=
    List.mem_map.mp ((perm_locations_collect (registryIn root listing) found).mem_iff.mp hmem)
  obtain ⟨other, hother, hwithin⟩ := hfound.among finding hfinding
  obtain ⟨hother, hkept⟩ := List.mem_filter.mp hother
  rw [hsame] at hwithin
  -- What lies below the child of another entry has another name.
  have hname := Location.eq_of_isWithin_child hwithin (root.child entry.name).isWithin_self
  rw [List.inj_on_of_nodup_map hlisting.distinct hother hentry hname, hregistry] at hkept
  cases hkept

end Proper

end Scan

namespace Service

variable {inv : Listings → Prop} {fs : FileSystem} {ttl : Nat} {root : Location}
  {valid : Findings → Prop}

/-- What holds of all that a walk over the root finds holds of all that a service finds there. -/
theorem ensures_scan_of
    (hscan : Ensures inv (Scan.scan (Listings.list fs ttl) root) fun result =>
      ∀ findings, result = .ok findings → valid findings) :
    Ensures inv (scan fs ttl root) fun result =>
      ∀ findings, result = .ok findings → valid findings := by
  unfold scan
  cases fs.stat root.path with
  | error cause => exact .pure (by simp)
  | ok node =>
    simp only
    split
    · refine Ensures.bind hscan fun result hresult => ?_
      cases result with
      | error cause => exact .pure (by simp)
      | ok found => exact .pure fun _ hsame => by cases hsame; exact hresult found rfl
    · exact .pure (by simp)

/-- A build is made from what is found below the root that its path leads to. -/
theorem valid_of_build {service : Service} (hinv : inv service.listings) {path : Path}
    (hscan : ∀ root, resolve fs path = .ok root →
      Ensures inv (scan fs service.listingTtl root) fun result =>
        ∀ findings, result = .ok findings → valid findings) {build : Build}
    (hbuild : (service.build fs path).1 = .ok build) :
    build = .ofFindings fs build.findings ∧ valid build.findings := by
  unfold Service.build at hbuild
  cases hroot : resolve fs path with
  | error fault => simp [hroot] at hbuild
  | ok root =>
    have hvalid := (hscan root hroot service.listings hinv).1
    simp only [hroot] at hbuild
    rcases hresult : scan fs service.listingTtl root service.listings with ⟨findings, listings⟩
    rw [hresult] at hbuild hvalid
    cases findings with
    | error fault => cases hbuild
    | ok findings =>
      cases hbuild
      exact ⟨rfl, hvalid findings rfl⟩

end Service

end TemplateCatalog
