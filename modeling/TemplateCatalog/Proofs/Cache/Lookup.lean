import TemplateCatalog.Proofs.Cache.Contents

/-!
# What a key finds

Every operation on a cache, described by what the keys find afterwards. The entries of a cache are a
list, and a key finds the first entry under it; since no key ever has two of them, dropping entries
never brings another one to light.

The module introduces:

* `Cache.Distinct`: no two entries are stored under one key;
* `Cache.evicted?`: the key of the entry that makes room for a new one.

Main statements:

* `CacheSession.distinct_step`: no operation stores two entries under one key.
* `Cache.find?_set`, `Cache.find?_get`, `Cache.find?_has`, `Cache.find?_delete`,
  `Cache.find?_sweep`, `Cache.find?_invalidate`: what a key finds after an operation.
-/

namespace TemplateCatalog

variable {κ ν : Type}

namespace Cache

/-! ### One entry to a key -/

/-- No two entries are stored under one key. -/
def Distinct (cache : Cache κ ν) : Prop :=
  (cache.entries.map Prod.fst).Nodup

theorem distinct_empty (options : CacheOptions) : (empty options : Cache κ ν).Distinct :=
  .nil

/-- What has lost some entries has not got two under one key. -/
theorem Distinct.of_sublist {cache after : Cache κ ν} (hdistinct : cache.Distinct)
    (hsublist : after.entries.Sublist cache.entries) : after.Distinct :=
  hdistinct.sublist (hsublist.map Prod.fst)

theorem Distinct.sweep {cache : Cache κ ν} (hdistinct : cache.Distinct) (now : Nat) :
    (cache.sweep now).2.Distinct :=
  hdistinct.of_sublist List.filter_sublist

end Cache

variable [DecidableEq κ]

namespace Cache

/-- An entry in place of the one under its key leaves one entry to a key. -/
theorem nodup_cons_without {entries : List (κ × Entry ν)} (hdistinct : (entries.map Prod.fst).Nodup)
    (key : κ) (entry : Entry ν) : (((key, entry) :: without key entries).map Prod.fst).Nodup := by
  rw [List.map_cons, List.nodup_cons]
  refine ⟨?_, hdistinct.sublist (List.filter_sublist.map Prod.fst)⟩
  intro hmem
  obtain ⟨stored, hstored, hkey⟩ := List.mem_map.mp hmem
  rw [without, List.mem_filter, decide_eq_true_eq] at hstored
  exact hstored.2 hkey

theorem evict_sublist (cache : Cache κ ν) : cache.evict.entries.Sublist cache.entries := by
  unfold evict
  split
  · exact List.Sublist.refl _
  · exact List.filter_sublist

theorem Distinct.set {cache : Cache κ ν} (hdistinct : cache.Distinct) (now : Nat) (key : κ)
    (value : ν) (ttl : Option Nat) : (cache.set now key value ttl).Distinct := by
  have hroom : (if cache.isFullFor key then cache.evict else cache).Distinct := by
    split
    · exact hdistinct.of_sublist cache.evict_sublist
    · exact hdistinct
  exact nodup_cons_without hroom key _

theorem Distinct.expire {cache : Cache κ ν} (hdistinct : cache.Distinct) (key : κ) :
    (cache.expire key).Distinct :=
  hdistinct.of_sublist List.filter_sublist

theorem Distinct.get {cache : Cache κ ν} (hdistinct : cache.Distinct) (now : Nat) (key : κ) :
    (cache.get now key).2.Distinct := by
  unfold Cache.get
  split
  · exact hdistinct
  · split
    · exact hdistinct.expire key
    · exact nodup_cons_without hdistinct key _

theorem Distinct.has {cache : Cache κ ν} (hdistinct : cache.Distinct) (now : Nat) (key : κ) :
    (cache.has now key).2.Distinct := by
  unfold Cache.has
  split
  · exact hdistinct
  · split
    · exact hdistinct.expire key
    · exact hdistinct

end Cache

/-- No operation stores two entries under one key. -/
theorem CacheSession.distinct_step {session : CacheSession κ ν}
    (hdistinct : session.swept.cache.Distinct) (op : CacheOp κ ν) :
    (session.step op).2.swept.cache.Distinct := by
  rw [cache_step]
  cases op with
  | set key value ttl => exact hdistinct.set _ _ _ _
  | get key => exact hdistinct.get _ _
  | has key => exact hdistinct.has _ _
  | delete key => exact hdistinct.of_sublist List.filter_sublist
  | clear => exact .nil
  | cleanup => exact hdistinct.sweep _
  | invalidate matched => exact hdistinct.of_sublist List.filter_sublist
  | sleep duration =>
    exact Cache.sweepAll_induction hdistinct (fun _ moment hswept => hswept.sweep moment) _
  | size | statistics | capacity | defaultTtl | startSweeper | startSweeperEvery | stopSweeper
  | isSweeping => exact hdistinct

namespace Cache

/-! ### What a key finds in a list of entries -/

/-- A key whose entry is taken out finds nothing, other keys find what they found. -/
theorem lookup_without (key other : κ) (entries : List (κ × Entry ν)) :
    (without key entries).lookup other = if other = key then none else entries.lookup other := by
  induction entries with
  | nil => simp [without]
  | cons stored entries ih =>
    obtain ⟨name, entry⟩ := stored
    rw [without] at ih ⊢
    by_cases hname : name = key
    · -- The entry goes, and only its own key can miss it.
      rw [List.filter_cons_of_neg (by simpa using hname), ih]
      split
      · rfl
      · next hother => rw [List.lookup_cons, beq_false_of_ne (hname ▸ hother)]
    · rw [List.filter_cons_of_pos (by simpa using hname), List.lookup_cons, List.lookup_cons, ih]
      by_cases hother : other = name
      · subst hother
        simp [hname]
      · simp [beq_false_of_ne hother]

/-- Without an entry under the key there is nothing to take out. -/
theorem without_of_lookup_eq_none {entries : List (κ × Entry ν)} {key : κ}
    (hnone : entries.lookup key = none) : without key entries = entries := by
  refine List.filter_eq_self.mpr fun stored hstored => decide_eq_true fun hsame => ?_
  have hne := List.lookup_eq_none_iff.mp hnone stored hstored
  simp [hsame] at hne

/-- With an entry in place of the one under a key, the key finds this entry. -/
theorem lookup_cons_without (key : κ) (entry : Entry ν) (entries : List (κ × Entry ν))
    (other : κ) :
    ((key, entry) :: without key entries).lookup other =
      if other = key then some entry else entries.lookup other := by
  rw [List.lookup_cons, lookup_without]
  by_cases hother : other = key
  · simp [hother]
  · simp [hother, beq_false_of_ne hother]

/-- With one entry to a key, a key finds among some of the entries what it finds among all, if this
is one of them. -/
theorem lookup_filter {entries : List (κ × Entry ν)} (hdistinct : (entries.map Prod.fst).Nodup)
    (p : κ × Entry ν → Bool) (key : κ) :
    (entries.filter p).lookup key = (entries.lookup key).filter fun entry => p (key, entry) := by
  induction entries with
  | nil => rfl
  | cons stored entries ih =>
    obtain ⟨name, entry⟩ := stored
    rw [List.map_cons, List.nodup_cons] at hdistinct
    have hrest := ih hdistinct.2
    by_cases hkey : key = name
    · subst hkey
      -- No other entry is stored under the key, so nothing takes the place of this one.
      have hnone : entries.lookup key = none := Pairs.lookup_eq_none_of_not_mem hdistinct.1
      rw [hnone] at hrest
      rw [List.lookup_cons_self, Option.filter_some]
      cases hp : p (key, entry) with
      | true => rw [List.filter_cons_of_pos hp, List.lookup_cons_self, if_pos rfl]
      | false => rw [List.filter_cons_of_neg (by simp [hp]), hrest]; rfl
    · rw [List.lookup_cons, beq_false_of_ne hkey]
      cases hp : p (name, entry) with
      | true => rw [List.filter_cons_of_pos hp, List.lookup_cons, beq_false_of_ne hkey, hrest]
      | false => rw [List.filter_cons_of_neg (by simp [hp]), hrest]

/-! ### What a key finds after an operation -/

/-- The key of the entry that is given up when something is stored under a key. -/
def evicted? (key : κ) (cache : Cache κ ν) : Option κ :=
  if cache.isFullFor key then (victim? cache.entries).map Prod.fst else none

theorem find?_evict (cache : Cache κ ν) (key : κ) :
    cache.evict.find? key =
      if (victim? cache.entries).map Prod.fst = some key then none else cache.find? key := by
  unfold evict find?
  cases victim? cache.entries with
  | none => rfl
  | some stored =>
    simp only [lookup_without, Option.map_some, Option.some.injEq, @eq_comm _ key]

/-- The key that something is stored under finds it, unused and touched last; the key of the entry
that was given up finds nothing. -/
theorem find?_set (now : Nat) (key : κ) (value : ν) (ttl : Option Nat) (cache : Cache κ ν)
    (other : κ) :
    (cache.set now key value ttl).find? other =
      if other = key then
        some ⟨value, deadline? now (ttl <|> cache.options.defaultTtl), 0, cache.touches + 1⟩
      else if cache.evicted? key = some other then none
      else cache.find? other := by
  have hroom : (if cache.isFullFor key then cache.evict else cache).find? other =
      if cache.evicted? key = some other then none else cache.find? other := by
    unfold evicted?
    split
    · exact find?_evict cache other
    · rfl
  rw [← hroom]
  exact lookup_cons_without key _ _ other

theorem find?_expire (key : κ) (cache : Cache κ ν) (other : κ) :
    (cache.expire key).find? other = if other = key then none else cache.find? other :=
  lookup_without key other cache.entries

/-- A key that is looked up goes on finding its entry, used once more and touched last, unless the
entry is expired; other keys find what they found. -/
theorem find?_get (now : Nat) (key : κ) (cache : Cache κ ν) (other : κ) :
    (cache.get now key).2.find? other =
      if other = key then
        ((cache.find? key).filter (!·.isExpired now)).map fun entry =>
          { entry with uses := entry.uses + 1, touched := cache.touches + 1 }
      else cache.find? other := by
  unfold get
  cases hfind : cache.find? key with
  | none =>
    by_cases hother : other = key
    · rw [if_pos hother, hother]
      exact hfind
    · rw [if_neg hother]
      rfl
  | some entry =>
    cases hexpired : entry.isExpired now with
    | true => simp [find?_expire, Option.filter_some, hexpired]
    | false =>
      simp only [Option.filter_some, hexpired]
      exact lookup_cons_without key _ _ other

/-- A key that is asked for goes on finding its entry unless it is expired. -/
theorem find?_has (now : Nat) (key : κ) (cache : Cache κ ν) (other : κ) :
    (cache.has now key).2.find? other =
      if other = key then (cache.find? key).filter (!·.isExpired now) else cache.find? other := by
  unfold has
  cases hfind : cache.find? key with
  | none =>
    by_cases hother : other = key
    · rw [if_pos hother, hother]
      exact hfind
    · rw [if_neg hother]
  | some entry =>
    cases hexpired : entry.isExpired now with
    | true => simp [find?_expire, Option.filter_some, hexpired]
    | false =>
      by_cases hother : other = key
      · simp [Option.filter_some, hexpired, hother, hfind]
      · simp [hexpired, hother]

theorem find?_delete (key : κ) (cache : Cache κ ν) (other : κ) :
    (cache.delete key).2.find? other = if other = key then none else cache.find? other :=
  lookup_without key other cache.entries

/-- After a sweep a key finds its entry unless it was expired. -/
theorem find?_sweep {cache : Cache κ ν} (hdistinct : cache.Distinct) (now : Nat) (key : κ) :
    (cache.sweep now).2.find? key = (cache.find? key).filter (!·.isExpired now) :=
  lookup_filter hdistinct (fun stored => !stored.2.isExpired now) key

/-- What a key finds after sweeps was there before. -/
theorem find?_of_find?_sweepAll {cache : Cache κ ν} (hdistinct : cache.Distinct)
    {moments : List Nat} {key : κ} {entry : Entry ν}
    (hfound : (cache.sweepAll moments).find? key = some entry) : cache.find? key = some entry := by
  induction moments generalizing cache with
  | nil => exact hfound
  | cons now moments ih =>
    have hswept := ih (hdistinct.sweep now) hfound
    rw [find?_sweep hdistinct] at hswept
    exact (Option.filter_eq_some_iff.mp hswept).1

/-- Keys that match find nothing any more, other keys find what they found. -/
theorem find?_invalidate {cache : Cache κ ν} (hdistinct : cache.Distinct) (matched : κ → Bool)
    (key : κ) :
    (cache.invalidate matched).2.find? key = if matched key then none else cache.find? key := by
  refine (lookup_filter hdistinct (fun stored => !matched stored.1) key).trans ?_
  rw [find?]
  cases hmatched : matched key with
  | true => cases cache.entries.lookup key <;> simp [hmatched]
  | false => cases cache.entries.lookup key <;> simp [hmatched]

end Cache

end TemplateCatalog
