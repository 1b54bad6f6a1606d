import TemplateCatalog.Proofs.Cache.Ticks
import TemplateCatalog.Proofs.Pairs

/-!
# What a cache holds

A cache never makes up a value: whatever is stored under a key was put there. So a property of
stored values that is kept by everything that is put into a cache is kept by the cache, whatever
else is done to it, however much time passes and whenever it is swept.

Main statements:

* `CacheSession.holds_step`: no operation but storing can break what holds of all values.
* `CacheSession.valid_of_found`: a lookup finds a value of which it holds.
-/

namespace TemplateCatalog

variable {κ ν : Type} {valid : κ → ν → Prop}

namespace Cache

/-- Every stored value may stand under its key. -/
def Holds (valid : κ → ν → Prop) (cache : Cache κ ν) : Prop :=
  ∀ stored ∈ cache.entries, valid stored.1 stored.2.value

theorem holds_of_subset {cache after : Cache κ ν} (hholds : cache.Holds valid)
    (hsubset : after.entries ⊆ cache.entries) : after.Holds valid :=
  fun stored hstored => hholds stored (hsubset hstored)

theorem holds_empty (options : CacheOptions) : (empty options : Cache κ ν).Holds valid := by
  simp [Holds, empty]

theorem Holds.sweep {cache : Cache κ ν} (hholds : cache.Holds valid) (now : Nat) :
    (cache.sweep now).2.Holds valid :=
  holds_of_subset hholds List.filter_sublist.subset

end Cache

variable [DecidableEq κ]

namespace Cache

theorem without_subset (key : κ) (entries : List (κ × Entry ν)) :
    without key entries ⊆ entries :=
  List.filter_sublist.subset

/-- An entry that is found under a key is stored under it. -/
theorem mem_of_find? {cache : Cache κ ν} {key : κ} {entry : Entry ν}
    (hfound : cache.find? key = some entry) : (key, entry) ∈ cache.entries :=
  Pairs.mem_of_lookup hfound

theorem evict_subset (cache : Cache κ ν) : cache.evict.entries ⊆ cache.entries := by
  unfold evict
  split
  · exact List.Subset.refl _
  · exact without_subset _ _

theorem Holds.set {cache : Cache κ ν} {key : κ} {value : ν} (hholds : cache.Holds valid)
    (hvalue : valid key value) (now : Nat) (ttl : Option Nat) :
    (cache.set now key value ttl).Holds valid := by
  have hroom : (if cache.isFullFor key then cache.evict else cache).Holds valid := by
    split
    · exact holds_of_subset hholds cache.evict_subset
    · exact hholds
  intro stored hstored
  rcases List.mem_cons.mp hstored with rfl | hstored
  · exact hvalue
  · exact hroom stored (without_subset _ _ hstored)

theorem Holds.expire {cache : Cache κ ν} (hholds : cache.Holds valid) (key : κ) :
    (cache.expire key).Holds valid :=
  holds_of_subset hholds (without_subset key cache.entries)

theorem Holds.get {cache : Cache κ ν} (hholds : cache.Holds valid) (now : Nat) (key : κ) :
    (cache.get now key).2.Holds valid := by
  unfold Cache.get
  split
  · exact hholds
  · next entry hfound =>
    split
    · exact hholds.expire key
    · intro stored hstored
      rcases List.mem_cons.mp hstored with rfl | hstored
      · exact hholds (key, entry) (mem_of_find? hfound)
      · exact hholds stored (without_subset _ _ hstored)

/-- A lookup finds a value that is stored under the key. -/
theorem Holds.valid_of_get {cache : Cache κ ν} {now : Nat} {key : κ} {value : ν}
    (hholds : cache.Holds valid) (hfound : (cache.get now key).1 = some value) :
    valid key value := by
  unfold Cache.get at hfound
  split at hfound
  · cases hfound
  · next entry hentry =>
    split at hfound
    · cases hfound
    · cases hfound
      exact hholds (key, entry) (mem_of_find? hentry)

theorem Holds.has {cache : Cache κ ν} (hholds : cache.Holds valid) (now : Nat) (key : κ) :
    (cache.has now key).2.Holds valid := by
  unfold Cache.has
  split
  · exact hholds
  · split
    · exact hholds.expire key
    · exact hholds

end Cache

namespace CacheSession

/-- An operation keeps what holds of all values if it stores no value of which it does not hold. -/
theorem holds_step {session : CacheSession κ ν} {op : CacheOp κ ν}
    (hholds : session.swept.cache.Holds valid)
    (hset : ∀ key value ttl, op = .set key value ttl → valid key value) :
    (session.step op).2.swept.cache.Holds valid := by
  rw [cache_step]
  cases op with
  | set key value ttl => exact hholds.set (hset key value ttl rfl) _ _
  | get key => exact hholds.get _ _
  | has key => exact hholds.has _ _
  | delete key => exact Cache.holds_of_subset hholds (Cache.without_subset key _)
  | clear => exact fun _ hstored => absurd hstored List.not_mem_nil
  | cleanup => exact hholds.sweep _
  | invalidate matched => exact Cache.holds_of_subset hholds List.filter_sublist.subset
  | sleep duration =>
    exact Cache.sweepAll_induction hholds (fun _ moment hswept => hswept.sweep moment) _
  | size | statistics | capacity | defaultTtl | startSweeper | startSweeperEvery | stopSweeper
  | isSweeping => exact hholds

/-- What a lookup finds may stand under the key. -/
theorem valid_of_found {session : CacheSession κ ν} {key : κ} {value : ν}
    (hholds : session.swept.cache.Holds valid)
    (hfound : (session.step (.get key)).1 = .found (some value)) : valid key value := by
  simp only [step, CacheAnswer.found.injEq] at hfound
  exact hholds.valid_of_get hfound

end CacheSession

end TemplateCatalog
