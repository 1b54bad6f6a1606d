import TemplateCatalog.Proofs.Cache.Eviction

/-!
# The keys that are used most

The ranking of the keys of a cache is the order of giving up, read backwards: first the key that was
found most often since it was stored, and of several such keys the one stored or found last. The two
orders are written down apart from each other, one as a comparison for sorting and one as a search
for the least entry; here they are shown to agree, so the entry that makes room next is the last one
of the ranking. Since no two entries were last touched by one operation, there are no ties, and the
order in which a cache happens to keep its entries makes no difference.

The module introduces:

* `CacheEvent.RanksBefore`: a key is used more than another one, by its history.

Main statements:

* `Cache.pairwise_ranking`: each entry of the ranking is given up after all that follow it.
* `Cache.ranking_of_perm`: the order of the entries does not matter.
* `Cache.getLast?_ranking`: the last entry of the ranking is given up first.
* `CacheSession.topKeys_ranked`: what the statistics name after any history.
-/

namespace TemplateCatalog

variable {κ ν : Type}

namespace Cache

variable {cache : Cache κ ν} {entries others : List (κ × Entry ν)}

/-! ### The ranking of the entries -/

/-- The ranking has all entries, each of them once. -/
theorem ranking_perm (cache : Cache κ ν) : cache.ranking.Perm cache.entries :=
  List.mergeSort_perm _ _

/-- No entry of the ranking is given up before one that follows it. -/
theorem pairwise_not_before (cache : Cache κ ν) :
    cache.ranking.Pairwise fun a b => a.2.before b.2 = false := by
  have hsorted : cache.ranking.Pairwise fun a b => (!a.2.before b.2) = true := by
    apply List.pairwise_mergeSort
    · intro a b c hab hbc
      rw [Bool.not_eq_true', Bool.eq_false_iff, ne_eq, Entry.before_iff] at hab hbc ⊢
      omega
    · intro a b
      rw [Bool.or_eq_true, Bool.not_eq_true', Bool.not_eq_true', Bool.eq_false_iff,
        Bool.eq_false_iff, ne_eq, ne_eq, Entry.before_iff, Entry.before_iff]
      omega
  exact hsorted.imp fun hnot => by simpa using hnot

/-- There are no ties: each entry of the ranking is given up after all that follow it. -/
theorem pairwise_ranking (htouched : (cache.entries.map fun stored => stored.2.touched).Nodup) :
    cache.ranking.Pairwise fun a b => b.2.before a.2 = true := by
  have hnumbers : cache.ranking.Pairwise fun a b => a.2.touched ≠ b.2.touched := by
    apply List.pairwise_map.mp
    exact ((cache.ranking_perm.map _).nodup_iff).mpr htouched
  refine (cache.pairwise_not_before.and hnumbers).imp ?_
  rintro a b ⟨hnot, hne⟩
  rw [Bool.eq_false_iff, ne_eq, Entry.before_iff] at hnot
  rw [Entry.before_iff]
  omega

/-- The order in which the entries are kept does not matter. -/
theorem ranking_of_perm (htouched : (cache.entries.map fun stored => stored.2.touched).Nodup)
    (hperm : others.Perm cache.entries) :
    ({ cache with entries := others } : Cache κ ν).ranking = cache.ranking := by
  let other : Cache κ ν := { cache with entries := others }
  have hothers : (other.entries.map fun stored => stored.2.touched).Nodup :=
    (hperm.map _).nodup_iff.mpr htouched
  have hsame : other.ranking.Perm cache.ranking :=
    other.ranking_perm.trans (hperm.trans cache.ranking_perm.symm)
  -- Two rankings could differ only where each of two entries precedes the other one.
  refine List.Perm.eq_of_pairwise (fun a b _ _ hab hba => ?_) (pairwise_ranking hothers)
    (pairwise_ranking htouched) hsame
  rw [Entry.before_iff] at hab hba
  omega

/-- Where each entry is given up after all that follow it, the last one is given up first. -/
theorem victim?_of_pairwise (hpairwise : entries.Pairwise fun a b => b.2.before a.2 = true) :
    victim? entries = entries.getLast? := by
  induction entries with
  | nil => rfl
  | cons first rest ih =>
    obtain ⟨hfirst, hrest⟩ := List.pairwise_cons.mp hpairwise
    rw [victim?, ih hrest]
    cases hlast : rest.getLast? with
    | none =>
      rw [List.getLast?_eq_none_iff] at hlast
      rw [hlast]
      rfl
    | some last =>
      have hbefore : last.2.before first.2 = true := hfirst last (List.mem_of_getLast? hlast)
      rw [List.getLast?_cons, hlast]
      exact if_pos hbefore

/-- The last entry of the ranking is the one that is given up first. -/
theorem getLast?_ranking (htouched : (cache.entries.map fun stored => stored.2.touched).Nodup) :
    cache.ranking.getLast? = victim? cache.entries := by
  rw [← victim?_of_pairwise (pairwise_ranking htouched)]
  exact victim?_of_perm htouched cache.ranking_perm

end Cache

variable [DecidableEq κ]

/-! ### The ranking of the keys -/

/-- By its history the first key is used more than the second one: it was found more often since
something was last stored under it, or as often and touched later. -/
def CacheEvent.RanksBefore (events : List (CacheEvent κ ν)) (key other : κ) : Prop :=
  uses other events < uses key events ∨
    uses key events = uses other events ∧ lastTouch other events < lastTouch key events

namespace Cache

section Named

variable {cache : Cache κ ν} {operations : Nat}

omit [DecidableEq κ]

theorem length_topKeys (cache : Cache κ ν) :
    cache.statistics.topKeys.length = min 10 cache.size := by
  show ((cache.ranking.take 10).map Prod.fst).length = min 10 cache.entries.length
  rw [List.length_map, List.length_take, cache.ranking_perm.length_eq]

/-- The keys that are named are keys of the ranking. -/
theorem topKeys_sublist (cache : Cache κ ν) :
    cache.statistics.topKeys.Sublist (cache.ranking.map Prod.fst) :=
  (List.take_sublist _ _).map Prod.fst

theorem nodup_topKeys (hdistinct : cache.Distinct) : cache.statistics.topKeys.Nodup := by
  have hkeys : (cache.ranking.map Prod.fst).Nodup :=
    (cache.ranking_perm.map Prod.fst).nodup_iff.mpr hdistinct
  exact hkeys.sublist cache.topKeys_sublist

/-- If no more than ten entries are stored, the key that is named last is the one whose entry is
given up first. -/
theorem getLast?_topKeys (htouched : (cache.entries.map fun stored => stored.2.touched).Nodup)
    (hfew : cache.size ≤ 10) :
    cache.statistics.topKeys.getLast? = (victim? cache.entries).map Prod.fst := by
  -- All keys of the ranking are named.
  have hall : cache.ranking.take 10 = cache.ranking := by
    apply List.take_of_length_le
    rw [cache.ranking_perm.length_eq]
    exact hfew
  show ((cache.ranking.take 10).map Prod.fst).getLast? = _
  rw [hall, List.getLast?_map, getLast?_ranking htouched]

theorem topKeys_of_perm (htouched : (cache.entries.map fun stored => stored.2.touched).Nodup)
    {others : List (κ × Entry ν)} (hperm : others.Perm cache.entries) :
    ({ cache with entries := others } : Cache κ ν).statistics.topKeys =
      cache.statistics.topKeys := by
  show (List.take 10 (Cache.ranking _)).map Prod.fst = _
  rw [ranking_of_perm htouched hperm]
  rfl

end Named

variable {cache : Cache κ ν} {operations : Nat} {key : κ}

/-- A key of the ranking is a key that something is stored under. -/
theorem mem_ranking_iff (hdistinct : cache.Distinct) :
    key ∈ cache.ranking.map Prod.fst ↔ (cache.find? key).isSome := by
  rw [(cache.ranking_perm.map Prod.fst).mem_iff, Option.isSome_iff_exists, List.mem_map]
  constructor
  · rintro ⟨stored, hstored, rfl⟩
    exact ⟨stored.2, (find?_eq_some_iff hdistinct).mpr hstored⟩
  · rintro ⟨entry, hfound⟩
    exact ⟨(key, entry), mem_of_find? hfound, rfl⟩

/-- What is given up first is what makes room for a new entry if all places are taken. -/
theorem find?_set_victim (hbounded : cache.Bounded operations) {victim : κ}
    (hvictim : (victim? cache.entries).map Prod.fst = some victim)
    (hnew : cache.find? key = none) (hfull : cache.size = cache.options.capacity) (now : Nat)
    (value : ν) (ttl : Option Nat) : (cache.set now key value ttl).find? victim = none := by
  have hevicted : cache.evicted? key = some victim := by
    rw [evicted?, if_pos ((isFullFor_iff hbounded).mpr ⟨hnew, hfull⟩), hvictim]
  -- Something is stored under the key that is given up, so it is not the new one.
  have hother : victim ≠ key := by
    rintro rfl
    obtain ⟨stored, hstored, hkey⟩ := Option.map_eq_some_iff.mp hvictim
    have hfound : cache.find? stored.1 = some stored.2 :=
      (find?_eq_some_iff hbounded.distinct).mpr (not_before_of_victim? hstored).1
    rw [hkey, hnew] at hfound
    cases hfound
  rw [find?_set, if_neg hother, if_pos hevicted]

end Cache

namespace CacheSession

variable {events : List (CacheEvent κ ν)} {cache : Cache κ ν} {operations : Nat}

/-- Of two stored keys the one whose entry is given up later is used more. -/
theorem Tracked.ranksBefore (htracked : Tracked events cache) (hdistinct : cache.Distinct)
    {stored other : κ × Entry ν} (hstored : stored ∈ cache.entries) (hother : other ∈ cache.entries)
    (hbefore : other.2.before stored.2 = true) :
    CacheEvent.RanksBefore events stored.1 other.1 := by
  have hfound : cache.find? stored.1 = some stored.2 :=
    (Cache.find?_eq_some_iff hdistinct).mpr hstored
  have hotherFound : cache.find? other.1 = some other.2 :=
    (Cache.find?_eq_some_iff hdistinct).mpr hother
  rw [Entry.before_iff] at hbefore
  -- The numbers of both entries stand for what the history says.
  rw [CacheEvent.RanksBefore, ← htracked.uses _ _ hfound, ← htracked.uses _ _ hotherFound,
    ← htracked.order _ _ _ _ hotherFound hfound]
  omega

/-- By the history each key of the ranking is used more than all that follow it. -/
theorem Tracked.pairwise_ranking (htracked : Tracked events cache)
    (hbounded : cache.Bounded operations) :
    (cache.ranking.map Prod.fst).Pairwise (CacheEvent.RanksBefore events) := by
  have hmem : ∀ stored, stored ∈ cache.ranking → stored ∈ cache.entries := fun stored =>
    cache.ranking_perm.mem_iff.mp
  apply List.pairwise_map.mpr
  apply List.Pairwise.imp_of_mem _ (Cache.pairwise_ranking hbounded.touched_distinct)
  intro stored other hstored hother hbefore
  exact htracked.ranksBefore hbounded.distinct (hmem _ hstored) (hmem _ hother) hbefore

/-- A stored key that is not named is used less than those that are. -/
theorem Tracked.ranksBefore_of_not_mem (htracked : Tracked events cache)
    (hbounded : cache.Bounded operations) {key other : κ}
    (hkey : key ∈ cache.statistics.topKeys) (hother : (cache.find? other).isSome)
    (hleft : other ∉ cache.statistics.topKeys) : CacheEvent.RanksBefore events key other := by
  have hranks := htracked.pairwise_ranking hbounded
  have hmem := (Cache.mem_ranking_iff hbounded.distinct).mpr hother
  -- The keys that are named stand before all others in the ranking.
  have hsplit : cache.ranking.map Prod.fst =
      cache.statistics.topKeys ++ (cache.ranking.drop 10).map Prod.fst := by
    show _ = (cache.ranking.take 10).map Prod.fst ++ _
    rw [← List.map_append, List.take_append_drop]
  rw [hsplit] at hranks hmem
  have hrest := (List.mem_append.mp hmem).resolve_left hleft
  exact (List.pairwise_append.mp hranks).2.2 key hkey other hrest

/-- After any operations the statistics name ten keys that something is stored under, or all of them
if there are no more, and each of them once. A key that was found more often since it was stored
stands before one that was found less often, and of keys that were found as often the one stored or
found last comes first; every key that is left out is used less than those that are named. In
whatever order the cache keeps its entries, they are the same keys. If there are no more than ten,
the one that is named last is the next one to be given up. -/
theorem topKeys_ranked (options : CacheOptions) (hosted : Bool) (ops : List (TimedOp κ ν)) :
    let events := (start options hosted).events ops
    let cache := ((start options hosted).runTimed ops).swept.cache
    let top := cache.statistics.topKeys
    (top.length = min 10 cache.size ∧ top.Nodup ∧ ∀ key ∈ top, (cache.find? key).isSome) ∧
      top.Pairwise (CacheEvent.RanksBefore events) ∧
      (∀ key ∈ top, ∀ other, (cache.find? other).isSome → other ∉ top →
        CacheEvent.RanksBefore events key other) ∧
      (∀ others : List (κ × Entry ν), others.Perm cache.entries →
        ({ cache with entries := others } : Cache κ ν).statistics.topKeys = top) ∧
      (1 ≤ cache.size → cache.size ≤ 10 → ∃ last, top.getLast? = some last ∧
        (∀ other, cache.evict.find? other = if last = other then none else cache.find? other) ∧
        ∀ now key value ttl, cache.find? key = none → cache.size = max options.capacity 1 →
          (cache.set now key value ttl).find? last = none) := by
  intro events cache top
  have hbounded : cache.Bounded ops.length := bounded_runTimed options hosted ops
  have htracked : Tracked events cache := tracked_runTimed options hosted ops
  have hcapacity : cache.options.capacity = max options.capacity 1 :=
    congrArg CacheOptions.capacity (options_runTimed options hosted ops)
  refine ⟨⟨cache.length_topKeys, Cache.nodup_topKeys hbounded.distinct, ?_⟩, ?_, ?_, ?_, ?_⟩
  · intro key hkey
    exact (Cache.mem_ranking_iff hbounded.distinct).mp (cache.topKeys_sublist.subset hkey)
  · exact (htracked.pairwise_ranking hbounded).sublist cache.topKeys_sublist
  · intro key hkey other hother hleft
    exact htracked.ranksBefore_of_not_mem hbounded hkey hother hleft
  · intro others hperm
    exact Cache.topKeys_of_perm hbounded.touched_distinct hperm
  · intro hstored hfew
    -- Nothing is left out, so the last key is the last one of the ranking, and that is the victim.
    have hne : cache.entries ≠ [] := List.ne_nil_of_length_pos hstored
    obtain ⟨⟨last, entry⟩, -, hvictim⟩ := Cache.exists_victim? hne
    have hlast : (Cache.victim? cache.entries).map Prod.fst = some last := by
      rw [hvictim]
      rfl
    refine ⟨last, ?_, ?_, ?_⟩
    · rw [← hlast]
      exact Cache.getLast?_topKeys hbounded.touched_distinct hfew
    · intro other
      rw [Cache.find?_evict, hlast]
      simp only [Option.some.injEq]
    · intro now key value ttl hnew hfull
      rw [← hcapacity] at hfull
      exact Cache.find?_set_victim hbounded hlast hnew hfull now value ttl

end CacheSession

end TemplateCatalog
