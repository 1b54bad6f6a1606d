import TemplateCatalog.Cache.Session
import TemplateCatalog.Catalog.Listing

/-!
# Remembered listings

Directory listings that are kept for a while, so that a catalog that is loaded again soon does not
read its directories again. A listing is kept under the location of its directory. Time may pass
while directories are being read: the pauses that lie ahead say how much of it, access by access.

Main statements:

* `list_fst_of_miss`: what is not remembered is read.
-/

namespace TemplateCatalog

/-- Listings in a cache, with the time that passes before each of the coming accesses. -/
structure Listings where
  /-- The cache and its clock. -/
  session : CacheSession Location Listing
  /-- The durations that pass before the next accesses; none after the last of them. -/
  pauses : List Nat

namespace Listings

/-- A cache without listings whose sweeper is started if it can be. -/
def start (options : CacheOptions) (hosted : Bool) : Listings where
  session := ((CacheSession.start options hosted).step .startSweeper).2
  pauses := []

/-- Carry out an operation on the cache, after the next pause. -/
def access (op : CacheOp Location Listing) : StateM Listings (CacheAnswer Location Listing) :=
  fun listings =>
    let later := (listings.session.step (.sleep (listings.pauses.headD 0))).2
    let (answer, session) := later.step op
    (answer, ⟨session, listings.pauses.drop 1⟩)

/-- The listing of a directory: the one that is remembered, or else what the directory holds now,
which is then remembered for the given time. -/
def list (fs : FileSystem) (ttl : Nat) (directory : Location) :
    StateM Listings (Except IoError Listing) := do
  match ← access (.get directory) with
  | .found (some listing) => return .ok listing
  | _ =>
    match fs.listing directory with
    | .error cause => return .error cause
    | .ok listing =>
      let _ ← access (.set directory listing (some ttl))
      return .ok listing

/-- Forget the listings of a directory and of all directories below it. -/
def forget (root : Location) : StateM Listings Unit := do
  let _ ← access (.invalidate root.isWithin)

/-- Let time pass. -/
def elapse (duration : Nat) (listings : Listings) : Listings :=
  { listings with session := (listings.session.step (.sleep duration)).2 }

/-- Stop the sweeper. -/
def close (listings : Listings) : Listings :=
  { listings with session := (listings.session.step .stopSweeper).2 }

/-- The statistics of the cache. -/
def statistics (listings : Listings) : CacheStatistics Location :=
  listings.session.swept.cache.statistics

/-- A listing that is not remembered is read. -/
theorem list_fst_of_miss {fs : FileSystem} {ttl : Nat} {directory : Location}
    {listings : Listings} (miss : (access (.get directory) listings).1 = .found none) :
    (list fs ttl directory listings).1 = fs.listing directory := by
  simp only [list, bind, StateT.bind, pure]
  rcases run : access (.get directory) listings with ⟨answer, after⟩
  rw [run] at miss
  simp only at miss
  subst miss
  simp only
  cases fs.listing directory <;> rfl

end Listings

end TemplateCatalog
