import TemplateCatalog.Catalog.Listing
import TemplateCatalog.Registry

/-!
# Scanning a content tree

A walk over a content tree that sorts its files into item documents, partial templates and the
registry. The walk sees directories through listings only, wherever these come from, so it is the
same walk whether the listings are remembered or fresh.

Main statements:

* `scan_pure`: a scan whose listings need no effects has none.
-/

namespace TemplateCatalog

/-- All files below a directory of this name are partials. -/
def partialsName : String :=
  "partials"

/-- The format of the document at a location, which its extension tells. -/
def Location.format? (location : Location) : Option Format :=
  location.extension?.bind Format.ofExtension?

/-- Something that a walk comes across. -/
inductive Finding where
  /-- An item document. -/
  | document (location : Location)
  /-- A partial template. -/
  | partialFile (location : Location)
  /-- A directory that cannot be listed. -/
  | unlistable (directory : Location) (cause : IoError)
  deriving DecidableEq, Repr

namespace Finding

/-- The location of a document. -/
def document? : Finding → Option Location
  | .document location => some location
  | _ => none

/-- The location of a partial. -/
def partial? : Finding → Option Location
  | .partialFile location => some location
  | _ => none

/-- A directory that cannot be listed, and why. -/
def unlistable? : Finding → Option (Location × IoError)
  | .unlistable directory cause => some (directory, cause)
  | _ => none

/-- What a file is, given whether it lies below a directory of partials. -/
def ofFile (inPartials : Bool) (location : Location) : List Finding :=
  if inPartials then [.partialFile location]
  else if location.format?.isSome then [.document location]
  else []

end Finding

/-- All that a scan finds. -/
structure Findings where
  /-- The item documents, in the order of their locations. -/
  documents : List Location
  /-- The partial templates, in the order of their locations. -/
  partials : List Location
  /-- The registry. -/
  registry : Option Location
  /-- The directories that could not be listed. -/
  failures : List (Location × IoError)
  deriving DecidableEq, Repr

namespace Scan

variable {m : Type → Type} [Monad m]

/-- Walk over the entries of a directory, going down into directories by the given walk. -/
def walkEntries (down : Bool → Location → m (List Finding)) (inPartials : Bool)
    (directory : Location) : Listing → m (List Finding)
  | [] => pure []
  | entry :: entries => do
    let location := directory.child entry.name
    let found ←
      match entry.kind with
      | .directory => down (inPartials || entry.name == partialsName) location
      | .file => pure (Finding.ofFile inPartials location)
    return found ++ (← walkEntries down inPartials directory entries)

/-- Walk over a directory and, at most so many levels down, over the directories below it. -/
def walk (list : Location → m (Except IoError Listing)) :
    Nat → Bool → Location → m (List Finding)
  | 0, _, _ => pure []
  | levels + 1, inPartials, directory => do
    match ← list directory with
    | .error cause => return [.unlistable directory cause]
    | .ok listing => walkEntries (walk list levels) inPartials directory listing

/-- The entry is a registry, if it is an entry of the content root. -/
def isRegistry (entry : ListingEntry) : Bool :=
  entry.kind == .file && Registry.isFileName entry.name

/-- The registry in the listing of the content root. -/
def registryIn (root : Location) (listing : Listing) : Option Location :=
  (Registry.chooseName? fun name => listing.any fun entry =>
    isRegistry entry && entry.name == name).map root.child

/-- What a walk over the content root came across, in order. -/
def collect (registry : Option Location) (found : List Finding) : Findings where
  documents := Location.sort (found.filterMap Finding.document?)
  partials := Location.sort (found.filterMap Finding.partial?)
  registry
  failures := found.filterMap Finding.unlistable?

/-- Scan the content tree below a root. Only the root itself has to be listable. The text of a
location grows by two characters a level at least, and a path is limited, so the walk comes to its
end before its levels do. -/
def scan (list : Location → m (Except IoError Listing)) (root : Location) :
    m (Except IoError Findings) := do
  match ← list root with
  | .error cause => return .error cause
  | .ok listing =>
    let entries := listing.filter fun entry => !isRegistry entry
    let found ← walkEntries (walk list pathLimit) false root entries
    return .ok (collect (registryIn root listing) found)

section Pure

variable [LawfulMonad m]

/-- A walk over entries has no effects if going down has none. -/
theorem walkEntries_pure (down : Bool → Location → List Finding) (inPartials : Bool)
    (directory : Location) (listing : Listing) :
    walkEntries (fun inside location => (pure (down inside location) : m _)) inPartials directory
        listing =
      pure (Id.run (walkEntries (m := Id) down inPartials directory listing)) := by
  induction listing with
  | nil => rfl
  | cons entry entries ih =>
    simp only [walkEntries, ih]
    cases entry.kind <;> simp [Id.run, bind, pure]

/-- A walk has no effects if its listings need none. -/
theorem walk_pure (list : Location → Except IoError Listing) (levels : Nat) (inPartials : Bool)
    (directory : Location) :
    walk (fun location => (pure (list location) : m _)) levels inPartials directory =
      pure (Id.run (walk (m := Id) list levels inPartials directory)) := by
  induction levels generalizing inPartials directory with
  | zero => rfl
  | succ levels ih =>
    have down : walk (fun location => (pure (list location) : m _)) levels =
        fun inside location => pure (Id.run (walk (m := Id) list levels inside location)) := by
      funext inside location
      exact ih inside location
    simp only [walk, pure_bind, down]
    show _ = pure (Id.run (match list directory with
      | .error cause => [.unlistable directory cause]
      | .ok listing =>
        walkEntries (m := Id) (walk (m := Id) list levels) inPartials directory listing))
    cases list directory with
    | error cause => rfl
    | ok listing => exact walkEntries_pure (walk (m := Id) list levels) inPartials directory listing

/-- A scan has no effects if its listings need none. -/
theorem scan_pure (list : Location → Except IoError Listing) (root : Location) :
    scan (fun location => (pure (list location) : m _)) root =
      pure (Id.run (scan (m := Id) list root)) := by
  have down : walk (fun location => (pure (list location) : m _)) pathLimit =
      fun inside location => pure (Id.run (walk (m := Id) list pathLimit inside location)) := by
    funext inside location
    exact walk_pure list pathLimit inside location
  simp only [scan, pure_bind, down]
  cases list root with
  | error cause => simp [Id.run, bind, pure]
  | ok listing =>
    simp only
    rw [walkEntries_pure fun inside location =>
      Id.run (walk (m := Id) list pathLimit inside location)]
    simp [Id.run, bind, pure]

end Pure

end Scan

end TemplateCatalog
