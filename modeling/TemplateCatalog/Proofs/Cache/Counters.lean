import TemplateCatalog.Proofs.Cache.Eviction

/-!
# What the counters of a cache count

The counters of a cache against the history of its operations. Every entry that was ever added is
still stored, or it has been given up, has expired, or was taken away by an operation that says how
many it took; an entry that is overwritten has only changed its value. The hits and the misses count
the lookups, but for those that found an expired entry: such a lookup finds nothing, and is counted
as an expiry alone. None of this depends on the clock, which may go back.

The module introduces:

* `CacheCounts`, `Cache.counts`: the counters of a cache;
* `Balanced`: the counters and the size of a cache are what a history says;
* `CacheEvent.adds`, `CacheEvent.evicts`, `CacheEvent.expires`, `CacheEvent.sweeps`,
  `CacheEvent.deletes`, `CacheEvent.invalidates`, `CacheEvent.clears`: how entries come and go;
* `CacheEvent.looksUp`, `CacheEvent.hits`, `CacheEvent.misses`: what becomes of lookups.

Main statements:

* `CacheEvent.counts_after`, `CacheEvent.size_after`: what one operation counts, and how many
  entries it leaves.
* `Balanced.step`, `CacheSession.balanced_runTimed`: the same for whole histories.
* `CacheSession.entries_accounted`: no entry is lost or counted twice.
* `CacheSession.lookups_counted`: which lookups are counted.
-/

namespace TemplateCatalog

variable {κ ν : Type}

/-! ### Counters -/

/-- The counters of a cache. -/
structure CacheCounts where
  /-- How many lookups found a value. -/
  hits : Nat
  /-- How many lookups found no entry. -/
  misses : Nat
  /-- How many entries were dropped because they had expired. -/
  expirations : Nat
  /-- How many entries were given up for new ones. -/
  evictions : Nat
  /-- How many touches there were. -/
  touches : Nat
  deriving DecidableEq, Repr

/-- The counters have only gone up, if they have changed at all. -/
structure CacheCounts.AtMost (counts later : CacheCounts) : Prop where
  hits : counts.hits ≤ later.hits
  misses : counts.misses ≤ later.misses
  expirations : counts.expirations ≤ later.expirations
  evictions : counts.evictions ≤ later.evictions
  touches : counts.touches ≤ later.touches

theorem CacheCounts.AtMost.trans {counts later latest : CacheCounts} (hfirst : counts.AtMost later)
    (hsecond : later.AtMost latest) : counts.AtMost latest where
  hits := hfirst.hits.trans hsecond.hits
  misses := hfirst.misses.trans hsecond.misses
  expirations := hfirst.expirations.trans hsecond.expirations
  evictions := hfirst.evictions.trans hsecond.evictions
  touches := hfirst.touches.trans hsecond.touches

/-- The counters of a cache. -/
def Cache.counts (cache : Cache κ ν) : CacheCounts :=
  ⟨cache.hits, cache.misses, cache.expirations, cache.evictions, cache.touches⟩

namespace CacheAnswer

/-- The answer is yes. -/
def isTrue : CacheAnswer κ ν → Bool
  | .flag b => b
  | _ => false

/-- The number that is the answer. -/
def number : CacheAnswer κ ν → Nat
  | .count n => n
  | _ => 0

end CacheAnswer

/-- The operation takes entries away whether or not they have expired. -/
def CacheOp.isRemoval : CacheOp κ ν → Bool
  | .delete _ | .clear | .invalidate _ => true
  | _ => false

variable [DecidableEq κ]

namespace CacheEvent

variable (event : CacheEvent κ ν)

/-- The cache before the operation. -/
def before : Cache κ ν :=
  event.session.swept.cache

/-- The cache after the operation. -/
def after : Cache κ ν :=
  (event.session.step event.op).2.swept.cache

/-- What the operation answers. -/
def answer : CacheAnswer κ ν :=
  (event.session.step event.op).1

/-! ### How entries come and go -/

/-- Something is stored under a key under which nothing was stored. -/
def adds : Bool :=
  match event.op with
  | .set key _ _ => (event.before.find? key).isNone
  | _ => false

/-- An entry is given up. -/
def evicts : Bool :=
  (event.session.evicted? event.op).isSome

/-- A key is looked up or asked for, and its entry turns out to be expired. -/
def expires : Bool :=
  match event.op with
  | .get key | .has key => (event.before.find? key).any (·.isExpired event.session.now)
  | _ => false

/-- How many entries are swept away, by a call or by the ticks of a sweeper while time passes. -/
def sweeps : Nat :=
  match event.op with
  | .cleanup => event.answer.number
  | .sleep duration =>
    event.before.dropped (event.session.swept.ticks (event.session.now + duration))
  | _ => 0

/-- An entry is deleted. -/
def deletes : Bool :=
  match event.op with
  | .delete _ => event.answer.isTrue
  | _ => false

/-- How many entries are removed because their keys match. -/
def invalidates : Nat :=
  match event.op with
  | .invalidate _ => event.answer.number
  | _ => 0

/-- How many entries are removed by emptying the cache. -/
def clears : Nat :=
  match event.op with
  | .clear => event.before.size
  | _ => 0

/-! ### What becomes of lookups -/

/-- The operation is a lookup. -/
def looksUp : Bool :=
  match event.op with
  | .get _ => true
  | _ => false

/-- The operation is a lookup that finds a value. -/
def hits : Bool :=
  event.looksUp && event.answer.isFound

/-- The operation is a lookup of a key under which nothing is stored. -/
def misses : Bool :=
  match event.op with
  | .get key => (event.before.find? key).isNone
  | _ => false

/-- The operation stores something. -/
def puts : Bool :=
  match event.op with
  | .set _ _ _ => true
  | _ => false

end CacheEvent

namespace Cache

variable (now : Nat) (key : κ) (cache : Cache κ ν)

/-! ### One operation on a cache -/

theorem counts_set (value : ν) (ttl : Option Nat) : (cache.set now key value ttl).counts =
    { cache.counts with
      evictions := cache.evictions + (cache.evicted? key).isSome.toNat
      touches := cache.touches + 1 } := by
  unfold set evicted?
  split
  · rw [evict]
    cases victim? cache.entries <;> rfl
  · rfl

theorem counts_get : (cache.get now key).2.counts =
    { hits := cache.hits + (cache.get now key).1.isSome.toNat
      misses := cache.misses + (cache.find? key).isNone.toNat
      expirations := cache.expirations + ((cache.find? key).any (·.isExpired now)).toNat
      evictions := cache.evictions
      touches := cache.touches + (cache.get now key).1.isSome.toNat } := by
  rw [get]
  cases cache.find? key with
  | none => rfl
  | some entry => cases hexpired : entry.isExpired now <;> simp [hexpired, counts, expire]

theorem counts_has : (cache.has now key).2.counts =
    { cache.counts with
      expirations :=
        cache.expirations + ((cache.find? key).any (·.isExpired now)).toNat } := by
  rw [has]
  cases cache.find? key with
  | none => rfl
  | some entry => cases hexpired : entry.isExpired now <;> simp [hexpired, counts, expire]

omit [DecidableEq κ] in
theorem counts_sweepAll (moments : List Nat) (cache : Cache κ ν) :
    (cache.sweepAll moments).counts =
      { cache.counts with expirations := cache.expirations + cache.dropped moments } := by
  induction moments generalizing cache with
  | nil => rfl
  | cons now moments ih =>
    refine (ih (cache.sweep now).2).trans ?_
    -- What the first sweep drops is counted before the others.
    rw [dropped, ← Nat.add_assoc]
    rfl

variable {cache}

/-- Storing adds an entry if the key is new, and takes one away if it has to make room. -/
theorem size_set (hdistinct : cache.Distinct) (value : ν) (ttl : Option Nat) :
    (cache.set now key value ttl).size + (cache.evicted? key).isSome.toNat =
      cache.size + (cache.find? key).isNone.toNat := by
  have hset : (cache.set now key value ttl).size =
      (without key (if cache.isFullFor key then cache.evict else cache).entries).length + 1 := rfl
  cases hfound : cache.find? key with
  | some entry =>
    -- The entry takes the place of the old one.
    have hroom : cache.isFullFor key = false := by rw [isFullFor, hfound]; rfl
    have hlength := length_without_add_one hdistinct hfound
    rw [hset, evicted?, hroom, if_neg Bool.false_ne_true, if_neg Bool.false_ne_true, hlength]
    rfl
  | none =>
    have hnew : without key cache.entries = cache.entries := without_of_lookup_eq_none hfound
    rw [hset, evicted?]
    split
    · cases hvictim : victim? cache.entries with
      | none =>
        rw [evict, hvictim, hnew]
        rfl
      | some stored =>
        -- One entry has made room, and it was stored under another key.
        have hmem := (not_before_of_victim? hvictim).1
        have hlength := length_without_add_one hdistinct
          ((Pairs.lookup_eq_some_iff_mem hdistinct).mpr hmem)
        have hkept : without key cache.evict.entries = cache.evict.entries := by
          apply without_of_lookup_eq_none
          have hfind := find?_evict cache key
          rw [hfound, ite_self] at hfind
          exact hfind
        have hsize : cache.evict.entries.length + 1 = cache.size := by
          rw [evict_of_victim? hvictim]
          exact hlength
        rw [hkept, hsize]
        rfl
    · rw [hnew]
      rfl

theorem size_expire (hdistinct : cache.Distinct) {entry : Entry ν}
    (hfound : cache.find? key = some entry) : (cache.expire key).size + 1 = cache.size :=
  length_without_add_one hdistinct hfound

/-- A lookup takes away the entry that turns out to be expired, and no other. -/
theorem size_get (hdistinct : cache.Distinct) :
    (cache.get now key).2.size + ((cache.find? key).any (·.isExpired now)).toNat = cache.size := by
  rw [get]
  cases hfound : cache.find? key with
  | none => rfl
  | some entry =>
    cases hexpired : entry.isExpired now with
    | true => simpa [hexpired] using size_expire key hdistinct hfound
    | false => simpa [hexpired, size] using length_without_add_one hdistinct hfound

/-- Asking takes away the entry that turns out to be expired, and no other. -/
theorem size_has (hdistinct : cache.Distinct) :
    (cache.has now key).2.size + ((cache.find? key).any (·.isExpired now)).toNat = cache.size := by
  rw [has]
  cases hfound : cache.find? key with
  | none => rfl
  | some entry =>
    cases hexpired : entry.isExpired now with
    | true => simpa [hexpired] using size_expire key hdistinct hfound
    | false => simp [hexpired]

theorem size_delete (hdistinct : cache.Distinct) :
    (cache.delete key).2.size + (cache.delete key).1.toNat = cache.size := by
  cases hfound : cache.find? key with
  | none =>
    have hsame : without key cache.entries = cache.entries := without_of_lookup_eq_none hfound
    simp [delete, hfound, size, hsame]
  | some entry => simpa [delete, hfound, size] using length_without_add_one hdistinct hfound

omit [DecidableEq κ] in
theorem size_invalidate (matched : κ → Bool) :
    (cache.invalidate matched).2.size + (cache.invalidate matched).1 = cache.size :=
  Nat.add_sub_cancel' (List.length_filter_le _ _)

end Cache

/-! ### One operation of a history -/

namespace CacheEvent

variable (event : CacheEvent κ ν)

/-- What an operation counts. -/
theorem counts_after : event.after.counts =
    { hits := event.before.hits + event.hits.toNat
      misses := event.before.misses + event.misses.toNat
      expirations := event.before.expirations + event.expires.toNat + event.sweeps
      evictions := event.before.evictions + event.evicts.toNat
      touches := event.before.touches + (event.puts || event.hits).toNat } := by
  obtain ⟨session, op⟩ := event
  rw [after, CacheSession.cache_step]
  cases op with
  | set key value ttl => exact Cache.counts_set _ _ _ _ _
  | get key => exact Cache.counts_get _ _ _
  | has key => exact Cache.counts_has _ _ _
  | sleep duration =>
    refine (Cache.counts_sweepAll _ _).trans ?_
    rw [expires, Bool.toNat_false, Nat.add_zero]
    rfl
  | cleanup => rfl
  | delete | clear | invalidate | size | statistics | capacity | defaultTtl | startSweeper
  | startSweeperEvery | stopSweeper | isSweeping => rfl

/-- How many entries an operation leaves: those that were there and the one that it adds, without
those that it takes away. -/
theorem size_after (hdistinct : event.before.Distinct) :
    event.after.size + event.evicts.toNat + event.expires.toNat + event.sweeps +
        event.deletes.toNat + event.invalidates + event.clears =
      event.before.size + event.adds.toNat := by
  obtain ⟨session, op⟩ := event
  rw [after, CacheSession.cache_step]
  cases op with
  | set key value ttl => exact Cache.size_set _ _ hdistinct _ _
  | get key => exact Cache.size_get _ _ hdistinct
  | has key => exact Cache.size_has _ _ hdistinct
  | delete key => exact Cache.size_delete _ hdistinct
  | clear => exact Nat.zero_add _
  | cleanup => exact Cache.size_sweep_add _ _
  | invalidate matched => exact Cache.size_invalidate matched
  | sleep duration => exact Cache.size_sweepAll_add _ _
  | size | statistics | capacity | defaultTtl | startSweeper | startSweeperEvery | stopSweeper
  | isSweeping => rfl

/-- No operation lowers a counter. -/
theorem atMost_after : event.before.counts.AtMost event.after.counts := by
  rw [counts_after]
  exact ⟨Nat.le_add_right _ _, Nat.le_add_right _ _,
    (Nat.le_add_right _ _).trans (Nat.le_add_right _ _), Nat.le_add_right _ _,
    Nat.le_add_right _ _⟩

/-- An operation that takes entries away whether or not they have expired counts nothing. -/
theorem counts_after_of_isRemoval (hremoval : event.op.isRemoval = true) :
    event.after.counts = event.before.counts := by
  obtain ⟨session, op⟩ := event
  cases op with
  | delete | clear | invalidate => rfl
  | set | get | has | cleanup | size | statistics | capacity | defaultTtl | startSweeper
  | startSweeperEvery | stopSweeper | isSweeping | sleep => cases hremoval

/-- A lookup finds a value, or nothing is stored under its key, or what is stored has expired. -/
theorem hits_add_misses_add : event.hits.toNat + event.misses.toNat +
    (event.looksUp && event.expires).toNat = event.looksUp.toNat := by
  obtain ⟨session, op⟩ := event
  cases op with
  | get key =>
    show (session.swept.cache.get session.now key).1.isSome.toNat +
      (session.swept.cache.find? key).isNone.toNat +
      ((session.swept.cache.find? key).any (·.isExpired session.now)).toNat = 1
    rw [Cache.get]
    cases session.swept.cache.find? key with
    | none => rfl
    | some entry => cases hexpired : entry.isExpired session.now <;> simp [hexpired]
  | set | has | delete | clear | cleanup | invalidate | size | statistics | capacity | defaultTtl
  | startSweeper | startSweeperEvery | stopSweeper | isSweeping | sleep => rfl

end CacheEvent

/-! ### Whole histories -/

omit [DecidableEq κ] in
theorem CacheEvent.countP_concat (p : CacheEvent κ ν → Bool) (events : List (CacheEvent κ ν))
    (event : CacheEvent κ ν) :
    (events ++ [event]).countP p = events.countP p + (p event).toNat := by
  rw [List.countP_append, List.countP_singleton]
  cases p event <;> rfl

omit [DecidableEq κ] in
theorem CacheEvent.sum_map_concat (f : CacheEvent κ ν → Nat) (events : List (CacheEvent κ ν))
    (event : CacheEvent κ ν) : ((events ++ [event]).map f).sum = (events.map f).sum + f event := by
  rw [List.map_append, List.sum_append, List.map_singleton, List.sum_singleton]

/-- The counters and the size of a cache are what its history says. -/
structure Balanced (events : List (CacheEvent κ ν)) (cache : Cache κ ν) : Prop where
  counts : cache.counts =
    { hits := events.countP CacheEvent.hits
      misses := events.countP CacheEvent.misses
      expirations := events.countP CacheEvent.expires + (events.map CacheEvent.sweeps).sum
      evictions := events.countP CacheEvent.evicts
      touches := events.countP fun event => event.puts || event.hits }
  /-- The entries that are stored are those that were added and not taken away. -/
  size : cache.size + events.countP CacheEvent.evicts + events.countP CacheEvent.expires +
      (events.map CacheEvent.sweeps).sum + events.countP CacheEvent.deletes +
      (events.map CacheEvent.invalidates).sum + (events.map CacheEvent.clears).sum =
    events.countP CacheEvent.adds
  /-- A lookup is a hit or a miss, or it finds an expired entry. -/
  lookups : events.countP CacheEvent.hits + events.countP CacheEvent.misses +
      events.countP (fun event => event.looksUp && event.expires) =
    events.countP CacheEvent.looksUp

theorem balanced_empty (options : CacheOptions) :
    Balanced ([] : List (CacheEvent κ ν)) (.empty options) :=
  ⟨rfl, rfl, rfl⟩

theorem Balanced.step {events : List (CacheEvent κ ν)} {event : CacheEvent κ ν}
    (hbalanced : Balanced events event.before) (hdistinct : event.before.Distinct) :
    Balanced (events ++ [event]) event.after where
  counts := by
    have hbefore := hbalanced.counts
    rw [Cache.counts, CacheCounts.mk.injEq] at hbefore
    obtain ⟨hhits, hmisses, hexpirations, hevictions, htouches⟩ := hbefore
    simp only [event.counts_after, CacheEvent.countP_concat, CacheEvent.sum_map_concat,
      CacheCounts.mk.injEq]
    refine ⟨?_, ?_, ?_, ?_, ?_⟩
    · rw [hhits]
    · rw [hmisses]
    · rw [hexpirations]
      omega
    · rw [hevictions]
    · rw [htouches]
  size := by
    have hbefore := hbalanced.size
    have hstep := event.size_after hdistinct
    simp only [CacheEvent.countP_concat, CacheEvent.sum_map_concat]
    omega
  lookups := by
    have hbefore := hbalanced.lookups
    have hstep := event.hits_add_misses_add
    simp only [CacheEvent.countP_concat]
    omega

namespace CacheSession

variable (options : CacheOptions) (hosted : Bool) (ops : List (TimedOp κ ν))

theorem balanced_runTimed :
    Balanced ((start options hosted).events ops)
      ((start options hosted).runTimed ops).swept.cache := by
  -- Induction on the history, one operation more at its end.
  induction ops using List.reverseRecOn with
  | nil => exact balanced_empty options
  | append_singleton ops timed ih =>
    rw [runTimed_concat, events_concat]
    let event : CacheEvent κ ν := ⟨((start options hosted).runTimed ops).setClock timed.1, timed.2⟩
    have hbalanced : Balanced ((start options hosted).events ops) event.before := ih
    exact hbalanced.step (bounded_runTimed options hosted ops).distinct

/-- No counter goes down in the course of a history. -/
theorem atMost_runTimed (more : List (TimedOp κ ν)) :
    ((start options hosted).runTimed ops).swept.cache.counts.AtMost
      ((start options hosted).runTimed (ops ++ more)).swept.cache.counts := by
  induction more using List.reverseRecOn with
  | nil =>
    rw [List.append_nil]
    exact ⟨Nat.le_refl _, Nat.le_refl _, Nat.le_refl _, Nat.le_refl _, Nat.le_refl _⟩
  | append_singleton more timed ih =>
    rw [← List.append_assoc, runTimed_concat]
    let event : CacheEvent κ ν :=
      ⟨((start options hosted).runTimed (ops ++ more)).setClock timed.1, timed.2⟩
    exact ih.trans event.atMost_after

/-- No entry is lost or counted twice, whatever the clock reads: the entries that were added to a
cache are those that are stored, and those that were given up, have expired, were deleted or
invalidated, or went when the cache was emptied. Those that have expired were found so by a lookup
or a question, or they were swept away. No counter ever goes down, and removing entries, whether
they have expired or not, changes no counter. -/
theorem entries_accounted :
    let events := (start options hosted).events ops
    let cache := ((start options hosted).runTimed ops).swept.cache
    events.countP CacheEvent.adds = cache.size + cache.evictions + cache.expirations +
        events.countP CacheEvent.deletes + (events.map CacheEvent.invalidates).sum +
        (events.map CacheEvent.clears).sum ∧
      cache.expirations =
        events.countP CacheEvent.expires + (events.map CacheEvent.sweeps).sum ∧
      (∀ more, cache.counts.AtMost
        ((start options hosted).runTimed (ops ++ more)).swept.cache.counts) ∧
      ∀ now op, op.isRemoval = true →
        ((start options hosted).runTimed (ops ++ [(now, op)])).swept.cache.counts =
          cache.counts := by
  intro events cache
  have hbalanced : Balanced events cache := balanced_runTimed options hosted ops
  have hevictions : cache.evictions = events.countP CacheEvent.evicts :=
    congrArg CacheCounts.evictions hbalanced.counts
  have hexpirations : cache.expirations =
      events.countP CacheEvent.expires + (events.map CacheEvent.sweeps).sum :=
    congrArg CacheCounts.expirations hbalanced.counts
  refine ⟨?_, hexpirations, atMost_runTimed options hosted ops, fun now op hremoval => ?_⟩
  · have hsize := hbalanced.size
    omega
  · rw [runTimed_concat]
    let event : CacheEvent κ ν := ⟨((start options hosted).runTimed ops).setClock now, op⟩
    exact event.counts_after_of_isRemoval hremoval

/-- Of four entries one is given up, one expires and one is deleted, while the clock goes back. -/
theorem entries_accounted_of_rewound_clock :
    let ops : List (TimedOp Nat String) :=
      [(8, .set 1 "a" (some 5)), (2, .set 2 "b" none), (3, .set 3 "c" none),
        (2, .set 2 "d" (some 1)), (9, .cleanup), (1, .set 4 "e" none), (1, .delete 4)]
    let events := (start ⟨2, none, none⟩ false).events ops
    let cache := ((start ⟨2, none, none⟩ false).runTimed ops).swept.cache
    events.countP CacheEvent.adds = cache.size + cache.evictions + cache.expirations + 1 ∧
      cache.size = 1 ∧ cache.evictions = 1 ∧ cache.expirations = 1 ∧
      (CacheOp.delete 3 : CacheOp Nat String).isRemoval = true ∧
      ((start ⟨2, none, none⟩ false).runTimed (ops ++ [(0, .delete 3)])).swept.cache.counts =
        cache.counts := by
  intro ops events cache
  obtain ⟨hadded, -, -, hremoval⟩ := entries_accounted ⟨2, none, none⟩ false ops
  exact ⟨hadded, by decide, by decide, by decide, rfl, hremoval 0 (.delete 3) rfl⟩

/-- The hits are the lookups that find a value, and the misses those of keys under which nothing is
stored. A lookup that finds an expired entry is neither, so hits and misses are all lookups just if
there is no such lookup; and the rate of hits is the share of the others that find a value. -/
theorem lookups_counted :
    let events := (start options hosted).events ops
    let cache := ((start options hosted).runTimed ops).swept.cache
    let expired := events.countP fun event => event.looksUp && event.expires
    cache.hits = events.countP CacheEvent.hits ∧
      cache.hits + cache.misses + expired = events.countP CacheEvent.looksUp ∧
      (cache.hits + cache.misses = events.countP CacheEvent.looksUp ↔
        ∀ event ∈ events, (event.looksUp && event.expires) = false) ∧
      cache.statistics.hitRate = ratio (events.countP CacheEvent.hits)
        (events.countP CacheEvent.looksUp - expired) * 100 := by
  intro events cache expired
  have hbalanced : Balanced events cache := balanced_runTimed options hosted ops
  have hhits : cache.hits = events.countP CacheEvent.hits :=
    congrArg CacheCounts.hits hbalanced.counts
  have hmisses : cache.misses = events.countP CacheEvent.misses :=
    congrArg CacheCounts.misses hbalanced.counts
  have hlookups : cache.hits + cache.misses + expired = events.countP CacheEvent.looksUp := by
    rw [hhits, hmisses]
    exact hbalanced.lookups
  refine ⟨hhits, hlookups, ?_, ?_⟩
  · have hnone : expired = 0 ↔ ∀ event ∈ events, (event.looksUp && event.expires) = false := by
      simp [expired, List.countP_eq_zero]
    rw [← hnone]
    omega
  · have htotal : events.countP CacheEvent.looksUp - expired = cache.hits + cache.misses := by
      omega
    rw [htotal, ← hhits]
    rfl

/-- Of two lookups one finds a value and the other one an expired entry, and only one is counted. -/
theorem hits_add_misses_ne_of_expired :
    let ops : List (TimedOp Nat String) :=
      [(0, .set 1 "a" none), (1, .get 1), (1, .set 2 "b" (some 0)), (1, .get 2)]
    let events := (start ⟨4, none, none⟩ false).events ops
    let cache := ((start ⟨4, none, none⟩ false).runTimed ops).swept.cache
    events.countP CacheEvent.looksUp = 2 ∧ events.countP CacheEvent.hits = 1 ∧
      cache.hits = 1 ∧ cache.misses = 0 ∧
      cache.hits + cache.misses ≠ events.countP CacheEvent.looksUp := by decide

end CacheSession

end TemplateCatalog
