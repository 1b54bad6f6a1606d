import TemplateCatalog.Catalog.Listings
import TemplateCatalog.Proofs.Cache.Contents

/-!
# Programs over remembered listings

A program that reads listings leaves other listings remembered than it found, and which ones depends
on the time that passes and on what has to make room. What it can rely on is an invariant of all
that is remembered. `Ensures` states that a program keeps such an invariant and describes its
result by it, for every state of the cache.

Main statements:

* `Ensures.bind`: programs one after the other.
* `Listings.ensures_list`: a listing that is asked for is the real one or a remembered one.
-/

namespace TemplateCatalog

/-- From every state with the invariant, `program` comes to a state with the invariant and to a
result as described by `post`. -/
def Ensures {σ α : Type} (inv : σ → Prop) (program : StateM σ α) (post : α → Prop) : Prop :=
  ∀ state, inv state → post (program state).1 ∧ inv (program state).2

namespace Ensures

variable {σ α β : Type} {inv : σ → Prop} {program : StateM σ α} {next : α → StateM σ β}
  {between post : α → Prop} {after : β → Prop}

theorem pure {result : α} (hresult : post result) :
    Ensures inv (Pure.pure result : StateM σ α) post :=
  fun _ hstate => ⟨hresult, hstate⟩

theorem bind (hprogram : Ensures inv program between)
    (hnext : ∀ result, between result → Ensures inv (next result) after) :
    Ensures inv (program >>= next) after := by
  intro state hstate
  obtain ⟨hresult, hbetween⟩ := hprogram state hstate
  exact hnext (program state).1 hresult (program state).2 hbetween

theorem mono (hprogram : Ensures inv program between)
    (himp : ∀ result, between result → post result) : Ensures inv program post := by
  intro state hstate
  obtain ⟨hresult, hafter⟩ := hprogram state hstate
  exact ⟨himp _ hresult, hafter⟩

theorem and (hprogram : Ensures inv program between) (hagain : Ensures inv program post) :
    Ensures inv program fun result => between result ∧ post result := by
  intro state hstate
  obtain ⟨hbetween, hafter⟩ := hprogram state hstate
  exact ⟨⟨hbetween, (hagain state hstate).1⟩, hafter⟩

end Ensures

namespace Listings

variable {valid : Location → Listing → Prop} {listings : Listings}

/-- Every remembered listing may be taken for the listing of its directory. -/
def Holds (valid : Location → Listing → Prop) (listings : Listings) : Prop :=
  listings.session.swept.cache.Holds valid

theorem holds_start (options : CacheOptions) (hosted : Bool) :
    (start options hosted).Holds valid :=
  CacheSession.holds_step (Cache.holds_empty options) (by simp)

theorem Holds.elapse (hholds : listings.Holds valid) (duration : Nat) :
    (listings.elapse duration).Holds valid :=
  CacheSession.holds_step hholds (by simp)

theorem Holds.close (hholds : listings.Holds valid) : listings.close.Holds valid :=
  CacheSession.holds_step hholds (by simp)

/-- An operation on the cache finds only what may be taken for a listing, and keeps it so. -/
theorem ensures_access {op : CacheOp Location Listing}
    (hset : ∀ directory listing ttl, op = .set directory listing ttl → valid directory listing) :
    Ensures (Holds valid) (access op) fun answer =>
      ∀ directory listing, op = .get directory → answer = .found (some listing) →
        valid directory listing := by
  intro listings hholds
  -- Time passes before the operation, and a sweep may come first.
  have hlater : (listings.session.step
      (.sleep (listings.pauses.headD 0))).2.swept.cache.Holds valid :=
    CacheSession.holds_step hholds (by simp)
  refine ⟨?_, CacheSession.holds_step hlater hset⟩
  rintro directory listing rfl hfound
  exact CacheSession.valid_of_found hlater hfound

theorem ensures_forget (root : Location) :
    Ensures (Holds valid) (forget root) fun _ => True :=
  Ensures.bind (ensures_access (by simp)) fun _ _ => .pure trivial

/-- The listing of a directory is the real one, or one that is remembered. It is remembered from
then on. -/
theorem ensures_list {fs : FileSystem} {ttl : Nat} {directory : Location}
    (hread : ∀ listing, fs.listing directory = .ok listing → valid directory listing) :
    Ensures (Holds valid) (list fs ttl directory) fun result =>
      result = fs.listing directory ∨
        ∃ listing, result = .ok listing ∧ valid directory listing := by
  refine Ensures.bind (ensures_access (by simp)) fun answer hanswer => ?_
  split
  · next listing => exact .pure (.inr ⟨listing, rfl, hanswer directory listing rfl rfl⟩)
  · cases hlisting : fs.listing directory with
    | error cause => exact .pure (.inl rfl) -- A failure is not remembered.
    | ok listing =>
      refine Ensures.bind (ensures_access ?_) fun _ _ => .pure (.inl rfl)
      rintro _ _ _ ⟨⟩
      exact hread listing hlisting

end Listings

end TemplateCatalog
