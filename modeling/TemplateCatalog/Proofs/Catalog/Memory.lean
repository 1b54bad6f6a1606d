import TemplateCatalog.Proofs.Catalog.Protocol
import TemplateCatalog.Proofs.Catalog.Walk

/-!
# What a service remembers

A service remembers only listings that it has read, so what holds of all that is read in the course
of a run holds of all that is remembered. And what a reload forgets is the content tree that it is
about, no more and no less.

Main statements:

* `Run.holds`: what holds of all listings that can be read in a run holds of all that are
  remembered.
* `Stage.mem_forgetting_iff`: a reload forgets the listings of its root and of what lies below it.
-/

namespace TemplateCatalog

variable {valid : Location → Listing → Prop}

/-- Whatever is read may be taken for the listing of its directory. -/
def FileSystem.Reads (valid : Location → Listing → Prop) (fs : FileSystem) : Prop :=
  ∀ directory listing, fs.listing directory = .ok listing → valid directory listing

/-! ### Runs keep what holds of all listings -/

namespace Service

theorem ensures_scan {fs : FileSystem} (hreads : fs.Reads valid) (ttl : Nat) (root : Location) :
    Ensures (Listings.Holds valid) (scan fs ttl root) fun _ => True := by
  unfold scan
  cases fs.stat root.path with
  | error cause => exact .pure trivial
  | ok node =>
    simp only
    split
    · refine Ensures.bind (Scan.ensures_scan (fun directory => ?_) root) fun findings _ => ?_
      · exact (Listings.ensures_list (hreads directory)).mono fun _ _ => trivial
      · cases findings <;> exact .pure trivial
    · exact .pure trivial

theorem holds_build {fs : FileSystem} {service : Service} (hreads : fs.Reads valid)
    (hholds : service.listings.Holds valid) (path : Path) :
    (service.build fs path).2.listings.Holds valid := by
  unfold build
  split
  · exact hholds
  · next root _ => exact (ensures_scan hreads service.listingTtl root _ hholds).2

end Service

theorem Stage.holds_next {fs : FileSystem} {service : Service} (stage : Stage)
    (hreads : fs.Reads valid) (hholds : service.listings.Holds valid) :
    (stage.next fs service).2.listings.Holds valid := by
  cases stage with
  | syncing repository => rw [next]; cases repository.sync fs <;> exact hholds
  | arriving fresh path => rw [next, Service.enter?]; cases service.loading <;> exact hholds
  | forgetting path =>
    rw [next]
    cases Service.resolve fs path with
    | error fault => exact hholds
    | ok root => exact (Listings.ensures_forget root _ hholds).2
  | building number path => exact Service.holds_build hreads hholds path
  | publishing number outcome => cases outcome <;> exact hholds
  | numbering path => exact hholds
  | leaving answer => exact hholds
  | returned answer => exact hholds

theorem Upkeep.holds_apply {listings : Listings} (work : Upkeep)
    (hholds : listings.Holds valid) : (work.apply listings).Holds valid := by
  cases work with
  | elapse duration => exact hholds.elapse duration
  | delay pauses => exact hholds
  | sweep => exact CacheSession.holds_step hholds (by simp)
  | close => exact hholds.close

/-- Whatever happens, what holds of all that is remembered goes on to hold of it if it holds of all
that can be read at the moment. -/
theorem Step.holds {system after : System} {event : Event} (hstep : Step system event after)
    (hreads : system.files.Reads valid) (hholds : system.service.listings.Holds valid) :
    after.service.listings.Holds valid := by
  cases hstep with
  | @advance call stage hcall => exact stage.holds_next hreads hholds
  | keep work => exact work.holds_apply hholds
  | call | ask | change => exact hholds

namespace Run

variable {system after : System} {log : List Event}

/-- What is true of all files that there are in the course of a run is true of the last ones. -/
theorem files {P : FileSystem → Prop} (hrun : Run system log after) (hstart : P system.files)
    (hchanges : ∀ files, .changed files ∈ log → P files) : P after.files := by
  induction hrun with
  | nil => exact hstart
  | cons hstep hrest ih =>
    refine ih ?_ fun files hfiles => hchanges files (List.mem_cons_of_mem _ hfiles)
    cases hstep with
    | change changed => exact hchanges changed List.mem_cons_self
    | call | advance | ask | keep => exact hstart

/-- A run in which no file changes leaves the files as they are. -/
theorem files_eq (hrun : Run system log after) (hkept : ∀ changed, .changed changed ∉ log) :
    after.files = system.files :=
  @Run.files _ _ _ (· = system.files) hrun rfl fun changed hmem => absurd hmem (hkept changed)

/-- What holds of all listings that can be read in a run holds of all that are remembered. -/
theorem holds (hrun : Run system log after) (hholds : system.service.listings.Holds valid)
    (hstart : system.files.Reads valid)
    (hchanges : ∀ files, .changed files ∈ log → files.Reads valid) :
    after.service.listings.Holds valid := by
  induction hrun with
  | nil => exact hholds
  | @cons _ _ _ _ log hstep hrest ih =>
    refine ih (hstep.holds hstart hholds) ?_ fun files hfiles =>
      hchanges files (List.mem_cons_of_mem _ hfiles)
    exact (Run.single hstep).files hstart fun files hfiles => by
      rw [List.mem_singleton] at hfiles
      exact hchanges files (hfiles ▸ List.mem_cons_self)

end Run

/-! ### What a reload forgets -/

namespace Listings

/-- The remembered listings at the moment of the next access. -/
def atAccess (listings : Listings) : List (Location × Entry Listing) :=
  (listings.session.step (.sleep (listings.pauses.headD 0))).2.swept.cache.entries

/-- The remembered listings, expired ones included. -/
def entries (listings : Listings) : List (Location × Entry Listing) :=
  listings.session.swept.cache.entries

/-- What is forgotten is what lies within the root. -/
theorem entries_forget (root : Location) (listings : Listings) :
    (forget root listings).2.entries =
      listings.atAccess.filter fun stored => !root.isWithin stored.1 :=
  rfl

/-- Nothing that lies within the root is remembered any more. -/
theorem holds_forget (root : Location) (listings : Listings) :
    (forget root listings).2.Holds fun directory _ => root.isWithin directory = false := by
  intro stored hstored
  rw [show (forget root listings).2.session.swept.cache.entries = _ from
    entries_forget root listings, List.mem_filter] at hstored
  simpa using hstored.2

end Listings

/-- A reload forgets the listings of the directory that its path leads to and of the directories
below it, and no others. -/
theorem Stage.mem_forgetting_iff {fs : FileSystem} {path : Path} {root : Location}
    (hroot : Service.resolve fs path = .ok root) (service : Service)
    (stored : Location × Entry Listing) :
    stored ∈ ((Stage.forgetting path).next fs service).2.listings.entries ↔
      stored ∈ service.listings.atAccess ∧ ¬root.names <+: stored.1.names := by
  have hnext : ((Stage.forgetting path).next fs service).2.listings =
      (Listings.forget root service.listings).2 := by
    rw [next, hroot]
  rw [hnext, Listings.entries_forget, List.mem_filter, ← Location.isWithin_iff]
  simp

end TemplateCatalog
