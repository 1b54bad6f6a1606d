import TemplateCatalog.Proofs.Cache.Counters

/-!
# Further sweeps go unnoticed

Whether and when a cache is swept makes no difference to anybody who looks something up, as long as
nothing has to be given up: an entry that is swept away has expired, so it would not have been
found either. A run is compared with the same run to which sweeps are added at any places, by calls
or by ticks of a sweeper. The cache of the extended run holds the same live entries, and of the
expired ones only some; so it has a place for something new whenever the other one has.

The module introduces:

* `ExtendedOp`, `CacheSession.runExtended`: runs with further sweeps;
* `ExtendedOp.givenOps`: what is left of such a run without the further sweeps;
* `Thinned`: a list of entries without some of those that have expired;
* `Cache.Shadows`, `CacheSession.Shadows`: a cache differs from another one in such entries alone.

Main statements:

* `Thinned.lookup_cases`: what a key finds where entries are missing.
* `Cache.Shadows.set`, `Cache.Shadows.get`, `Cache.Shadows.has`: one operation on both caches.
* `CacheSession.Shadows.step`, `CacheSession.Shadows.tick`: one step of a run.
* `CacheSession.further_sweeps_unnoticed`: what the two runs have in common.
-/

namespace TemplateCatalog

/-- A step of a run with further sweeps. -/
inductive ExtendedOp (κ ν : Type) where
  /-- An operation of the run without the further sweeps. -/
  | given (op : CacheOp κ ν)
  /-- A further call that sweeps the cache. -/
  | cleanup
  /-- A further tick of a sweeper. -/
  | tick

variable {κ ν : Type}

namespace ExtendedOp

/-- The operation, unless it is a further sweep. -/
def given? : ExtendedOp κ ν → Option (CacheOp κ ν)
  | .given op => some op
  | .cleanup | .tick => none

/-- What is left of a run without the further sweeps, at the moments that the clock reads. -/
def givenOps (steps : List (Nat × ExtendedOp κ ν)) : List (TimedOp κ ν) :=
  steps.filterMap fun step => step.2.given?.map fun op => (step.1, op)

theorem givenOps_append (before after : List (Nat × ExtendedOp κ ν)) :
    givenOps (before ++ after) = givenOps before ++ givenOps after :=
  List.filterMap_append

theorem givenOps_concat_given (steps : List (Nat × ExtendedOp κ ν)) (now : Nat)
    (op : CacheOp κ ν) : givenOps (steps ++ [(now, .given op)]) = givenOps steps ++ [(now, op)] :=
  givenOps_append steps _

/-- A further sweep at the end of a run is left out. -/
theorem givenOps_concat_of_given?_eq_none (steps : List (Nat × ExtendedOp κ ν)) (now : Nat)
    {further : ExtendedOp κ ν} (hnone : further.given? = none) :
    givenOps (steps ++ [(now, further)]) = givenOps steps := by
  have hlast : givenOps [(now, further)] = [] := List.filterMap_cons_none (congrArg _ hnone)
  rw [givenOps_append, hlast, List.append_nil]

end ExtendedOp

/-- The operation looks up a key or asks for it. -/
def CacheOp.isLookup : CacheOp κ ν → Bool
  | .get _ | .has _ => true
  | _ => false

/-! ### Entries without some of the expired ones -/

/-- The first list is the second one without some of the entries that have expired. -/
structure Thinned (now : Nat) (thinned entries : List (κ × Entry ν)) : Prop where
  sublist : thinned.Sublist entries
  /-- All live entries are there. -/
  live : (thinned.filter fun stored => !stored.2.isExpired now) =
    entries.filter fun stored => !stored.2.isExpired now

namespace Thinned

variable {now : Nat} {thinned entries : List (κ × Entry ν)}

theorem refl (now : Nat) (entries : List (κ × Entry ν)) : Thinned now entries entries :=
  ⟨List.Sublist.refl _, rfl⟩

/-- What has expired stays expired. -/
theorem mono (hthinned : Thinned now thinned entries) {later : Nat} (hle : now ≤ later) :
    Thinned later thinned entries where
  sublist := hthinned.sublist
  live := by rw [← Cache.filter_live hle thinned, hthinned.live, Cache.filter_live hle entries]

/-- Of both lists only the entries of one kind are kept. -/
theorem filter (hthinned : Thinned now thinned entries) (p : κ × Entry ν → Bool) :
    Thinned now (thinned.filter p) (entries.filter p) where
  sublist := hthinned.sublist.filter p
  live := by rw [List.filter_comm, hthinned.live, List.filter_comm]

/-- A sweep of the first list only takes away further expired entries. -/
theorem sweep_left (hthinned : Thinned now thinned entries) :
    Thinned now (thinned.filter fun stored => !stored.2.isExpired now) entries where
  sublist := List.filter_sublist.trans hthinned.sublist
  live := (Cache.filter_live (Nat.le_refl now) thinned).trans hthinned.live

variable [DecidableEq κ]

/-- An entry takes the place of the one under its key in both lists. -/
theorem put (hthinned : Thinned now thinned entries) (key : κ) (entry : Entry ν) :
    Thinned now ((key, entry) :: Cache.without key thinned)
      ((key, entry) :: Cache.without key entries) where
  sublist := (hthinned.filter _).sublist.cons_cons _
  live := by
    have hwithout : Thinned now (Cache.without key thinned) (Cache.without key entries) :=
      hthinned.filter _
    rw [List.filter_cons, List.filter_cons, hwithout.live]

/-- A key that finds nothing in the first list can do without its entry in the second one. -/
theorem without_right (hthinned : Thinned now thinned entries) {key : κ}
    (hnone : thinned.lookup key = none) : Thinned now thinned (Cache.without key entries) := by
  have hboth : Thinned now (Cache.without key thinned) (Cache.without key entries) :=
    hthinned.filter _
  rw [Cache.without_of_lookup_eq_none hnone] at hboth
  exact hboth

/-- A key finds the same in both lists, or what it finds in the second one has expired and is
missing in the first one. -/
theorem lookup_cases (hthinned : Thinned now thinned entries)
    (hdistinct : (entries.map Prod.fst).Nodup) (key : κ) :
    thinned.lookup key = entries.lookup key ∨
      thinned.lookup key = none ∧
        ∃ entry, entries.lookup key = some entry ∧ entry.isExpired now = true := by
  have hthinnedDistinct : (thinned.map Prod.fst).Nodup :=
    hdistinct.sublist (hthinned.sublist.map Prod.fst)
  -- Among the live entries the key finds the same.
  have hlive := congrArg (List.lookup key) hthinned.live
  rw [Cache.lookup_filter hthinnedDistinct, Cache.lookup_filter hdistinct] at hlive
  cases hfound : thinned.lookup key with
  | some entry =>
    have hmem := hthinned.sublist.subset (Pairs.mem_of_lookup hfound)
    exact .inl ((Pairs.lookup_eq_some_iff_mem hdistinct).mpr hmem).symm
  | none =>
    cases hentry : entries.lookup key with
    | none => exact .inl rfl
    | some entry =>
      refine .inr ⟨rfl, entry, rfl, ?_⟩
      rw [hfound, hentry, Option.filter_none, eq_comm, Option.filter_eq_none_iff] at hlive
      simpa using hlive entry rfl

end Thinned

namespace Cache

/-! ### Caches beside each other -/

/-- The first cache is like the second one, but for some missing entries that have expired, and for
the counts of what has expired and of what was not found. -/
structure Shadows (now : Nat) (shadow cache : Cache κ ν) : Prop where
  thinned : Thinned now shadow.entries cache.entries
  options : shadow.options = cache.options
  hits : shadow.hits = cache.hits
  evictions : shadow.evictions = cache.evictions
  touches : shadow.touches = cache.touches

variable {shadow cache : Cache κ ν} {now : Nat} {operations : Nat}

theorem Shadows.refl (now : Nat) (cache : Cache κ ν) : Shadows now cache cache :=
  ⟨Thinned.refl now _, rfl, rfl, rfl, rfl⟩

theorem Shadows.mono (hshadows : Shadows now shadow cache) {later : Nat} (hle : now ≤ later) :
    Shadows later shadow cache :=
  { hshadows with thinned := hshadows.thinned.mono hle }

/-- Sweeps of both caches keep them alike, whenever they take place. -/
theorem Shadows.sweepAll (hshadows : Shadows now shadow cache) (moments : List Nat) :
    Shadows now (shadow.sweepAll moments) (cache.sweepAll moments) := by
  induction moments generalizing shadow cache with
  | nil => exact hshadows
  | cons moment moments ih =>
    have hswept : Shadows now (shadow.sweep moment).2 (cache.sweep moment).2 :=
      { hshadows with thinned := hshadows.thinned.filter _ }
    exact ih hswept

variable [DecidableEq κ] {key : κ}

/-- Where nothing is given up, there was a place. -/
theorem isFullFor_eq_false (hbounded : cache.Bounded operations)
    (hkept : cache.evicted? key = none) : cache.isFullFor key = false := by
  cases hfull : cache.isFullFor key with
  | false => rfl
  | true =>
    obtain ⟨stored, -, hvictim⟩ := exists_victim? (hbounded.ne_nil_of_isFullFor hfull)
    rw [evicted?, if_pos hfull, hvictim] at hkept
    cases hkept

/-- If there is a place, storing is no more than putting the entry there. -/
theorem set_of_isFullFor_eq_false (hplace : cache.isFullFor key = false) (now : Nat) (value : ν)
    (ttl : Option Nat) : cache.set now key value ttl =
      { cache with
        entries :=
          (key, ⟨value, deadline? now (ttl <|> cache.options.defaultTtl), 0, cache.touches + 1⟩) ::
            without key cache.entries
        touches := cache.touches + 1 } := by
  rw [set, hplace]
  rfl

/-- Where the second cache has a place, the first one has a place too. -/
theorem Shadows.isFullFor_eq_false (hshadows : Shadows now shadow cache)
    (hbounded : cache.Bounded operations) (hplace : cache.isFullFor key = false) :
    shadow.isFullFor key = false := by
  rw [Bool.eq_false_iff, ne_eq, isFullFor_iff hbounded] at hplace
  rw [Bool.eq_false_iff, ne_eq, isFullFor, Bool.and_eq_true, Option.isNone_iff_eq_none,
    decide_eq_true_eq, hshadows.options]
  rintro ⟨hnew, hfull⟩
  have hsize : cache.size ≤ cache.options.capacity := hbounded.size_le
  rcases hshadows.thinned.lookup_cases hbounded.distinct key with
    hsame | ⟨hgone, entry, hfound, -⟩
  · have hle : shadow.size ≤ cache.size := hshadows.thinned.sublist.length_le
    exact hplace ⟨hsame.symm.trans hnew, hsize.antisymm (hfull.trans hle)⟩
  · -- The place of the expired entry is free.
    have hle : shadow.size ≤ (without key cache.entries).length :=
      (hshadows.thinned.without_right hgone).sublist.length_le
    have hlength : (without key cache.entries).length + 1 = cache.size :=
      length_without_add_one hbounded.distinct hfound
    omega

/-- If nothing is given up in the second cache, storing does the same to both. -/
theorem Shadows.set (hshadows : Shadows now shadow cache) (hbounded : cache.Bounded operations)
    (hkept : cache.evicted? key = none) (value : ν) (ttl : Option Nat) :
    Shadows now (shadow.set now key value ttl) (cache.set now key value ttl) := by
  have hplace := Cache.isFullFor_eq_false hbounded hkept
  have hshadowPlace := hshadows.isFullFor_eq_false hbounded hplace
  rw [set_of_isFullFor_eq_false hplace, set_of_isFullFor_eq_false hshadowPlace, hshadows.options,
    hshadows.touches]
  exact { hshadows with
    thinned := hshadows.thinned.put key _, options := rfl, touches := rfl }

/-- An expired entry is dropped from the second cache, and may be missing in the first one. -/
theorem Shadows.expire_right (hshadows : Shadows now shadow cache)
    (hnone : shadow.find? key = none) : Shadows now shadow (cache.expire key) :=
  { hshadows with thinned := hshadows.thinned.without_right hnone }

/-- A lookup finds the same in both caches, and does the same to them. -/
theorem Shadows.get (hshadows : Shadows now shadow cache) (hdistinct : cache.Distinct) (key : κ) :
    (shadow.get now key).1 = (cache.get now key).1 ∧
      Shadows now (shadow.get now key).2 (cache.get now key).2 := by
  rw [Cache.get, Cache.get]
  rcases hshadows.thinned.lookup_cases hdistinct key with hsame | ⟨hgone, entry, hfound, hexpired⟩
  · have hfind : shadow.find? key = cache.find? key := hsame
    rw [hfind, hshadows.hits, hshadows.touches]
    cases hfound : cache.find? key with
    | none =>
      refine ⟨rfl, ?_⟩
      exact { hshadows with thinned := hshadows.thinned, hits := rfl, touches := rfl }
    | some entry =>
      dsimp only
      split
      · -- Both caches drop the entry.
        refine ⟨rfl, ?_⟩
        exact { hshadows with
          thinned := hshadows.thinned.filter _
          hits := hshadows.hits
          touches := hshadows.touches }
      · -- Both caches use the entry.
        refine ⟨rfl, ?_⟩
        exact { hshadows with thinned := hshadows.thinned.put key _, hits := rfl, touches := rfl }
  · -- The first cache misses what the second one drops as expired.
    have hnone : shadow.find? key = none := hgone
    have hsome : cache.find? key = some entry := hfound
    rw [hnone, hsome]
    dsimp only
    rw [if_pos hexpired]
    refine ⟨rfl, ?_⟩
    exact { hshadows.expire_right hnone with thinned := hshadows.thinned.without_right hgone }

/-- A question for a key is answered alike, and does the same to both caches. -/
theorem Shadows.has (hshadows : Shadows now shadow cache) (hdistinct : cache.Distinct) (key : κ) :
    (shadow.has now key).1 = (cache.has now key).1 ∧
      Shadows now (shadow.has now key).2 (cache.has now key).2 := by
  rw [Cache.has, Cache.has]
  rcases hshadows.thinned.lookup_cases hdistinct key with hsame | ⟨hgone, entry, hfound, hexpired⟩
  · have hfind : shadow.find? key = cache.find? key := hsame
    rw [hfind]
    cases hfound : cache.find? key with
    | none => exact ⟨rfl, hshadows⟩
    | some entry =>
      dsimp only
      split
      · exact ⟨rfl, { hshadows with thinned := hshadows.thinned.filter _ }⟩
      · exact ⟨rfl, hshadows⟩
  · -- What the second cache drops as expired is missing in the first one.
    have hnone : shadow.find? key = none := hgone
    have hsome : cache.find? key = some entry := hfound
    rw [hnone, hsome]
    dsimp only
    rw [if_pos hexpired]
    exact ⟨rfl, hshadows.expire_right hnone⟩

end Cache

/-- If nothing was given up until after an operation, nothing was given up by it or before. -/
theorem CacheEvent.evicted?_eq_none [DecidableEq κ] (event : CacheEvent κ ν)
    (hkept : event.after.evictions = 0) :
    event.before.evictions = 0 ∧ event.session.evicted? event.op = none := by
  have hcount : event.after.evictions = event.before.evictions + event.evicts.toNat :=
    congrArg CacheCounts.evictions event.counts_after
  rw [hcount, Nat.add_eq_zero_iff, Bool.toNat_eq_zero, evicts, Option.isSome_eq_false_iff,
    Option.isNone_iff_eq_none] at hkept
  exact hkept

/-! ### Sweepers -/

namespace SweptCache

variable (swept : SweptCache κ ν) (now : Nat) (hosted : Bool) (interval : Nat)

theorem sweeper_startEvery : (swept.startEvery now hosted interval).2.sweeper =
    if interval = 0 || swept.sweeper.isSome || !hosted then swept.sweeper
    else some ⟨interval, now + interval⟩ := by
  rw [startEvery]
  split <;> rfl

theorem sweeper_start : (swept.start now hosted).2.sweeper =
    swept.cache.options.sweepInterval.elim swept.sweeper fun interval =>
      (swept.startEvery now hosted interval).2.sweeper := by
  rw [start]
  cases swept.cache.options.sweepInterval <;> rfl

theorem sweeper_pass : (swept.pass now).sweeper = swept.sweeper.map fun sweeper =>
    if now < sweeper.due then sweeper else sweeper.moved now := by
  cases hsweeper : swept.sweeper with
  | none =>
    rw [pass_of_none hsweeper]
    exact hsweeper
  | some sweeper =>
    by_cases hdue : sweeper.due ≤ now
    · rw [pass_of_due hsweeper hdue, Option.map_some, if_neg (Nat.not_lt_of_le hdue)]
    · rw [pass_of_lt hsweeper (Nat.lt_of_not_le hdue), Option.map_some,
        if_pos (Nat.lt_of_not_le hdue)]
      exact hsweeper

end SweptCache

namespace CacheSession

/-! ### Sessions beside each other -/

/-- The first session is like the second one, but for what is missing in its cache because it has
expired. -/
structure Shadows (shadow session : CacheSession κ ν) : Prop where
  cache : shadow.swept.cache.Shadows shadow.now session.swept.cache
  sweeper : shadow.swept.sweeper = session.swept.sweeper
  hosted : shadow.hosted = session.hosted

variable {shadow session : CacheSession κ ν} {now : Nat}

/-- What is live later is live before, so the first clock may go on. -/
theorem Shadows.setClock_left (hshadows : Shadows shadow session) (hle : shadow.now ≤ now) :
    Shadows (shadow.setClock now) session :=
  { hshadows with cache := hshadows.cache.mono hle }

theorem Shadows.setClock_right (hshadows : Shadows shadow session) (now : Nat) :
    Shadows shadow (session.setClock now) :=
  { hshadows with cache := hshadows.cache }

/-- A further tick goes unnoticed. -/
theorem Shadows.tick (hshadows : Shadows shadow session) : Shadows shadow.tick session :=
  { hshadows with
    cache := { hshadows.cache with thinned := hshadows.cache.thinned.sweep_left } }

/-- Both sweepers tick at the same moments. -/
theorem Shadows.ticks_eq (hshadows : Shadows shadow session) (later : Nat) :
    shadow.swept.ticks later = session.swept.ticks later := by
  rw [SweptCache.ticks, SweptCache.ticks, hshadows.sweeper]

variable [DecidableEq κ] {operations : Nat}

/-- An operation does the same to both caches. -/
theorem Shadows.cacheAfter (hshadows : Shadows shadow session) (hnow : shadow.now = session.now)
    (hbounded : session.swept.cache.Bounded operations) {op : CacheOp κ ν}
    (hkept : session.evicted? op = none) :
    Cache.Shadows shadow.now (shadow.cacheAfter op) (session.cacheAfter op) := by
  have hcache := hshadows.cache
  cases op with
  | set key value ttl =>
    rw [CacheSession.cacheAfter, CacheSession.cacheAfter, ← hnow]
    exact hcache.set hbounded hkept value ttl
  | get key =>
    rw [CacheSession.cacheAfter, CacheSession.cacheAfter, ← hnow]
    exact (hcache.get hbounded.distinct key).2
  | has key =>
    rw [CacheSession.cacheAfter, CacheSession.cacheAfter, ← hnow]
    exact (hcache.has hbounded.distinct key).2
  | delete key => exact { hcache with thinned := hcache.thinned.filter _ }
  | clear => exact { hcache with thinned := Thinned.refl _ _ }
  | cleanup =>
    rw [CacheSession.cacheAfter, CacheSession.cacheAfter, ← hnow]
    exact { hcache with thinned := hcache.thinned.filter _ }
  | invalidate matched => exact { hcache with thinned := hcache.thinned.filter _ }
  | sleep duration =>
    rw [CacheSession.cacheAfter, CacheSession.cacheAfter, ← hnow, hshadows.ticks_eq]
    exact hcache.sweepAll _
  | size | statistics | capacity | defaultTtl | startSweeper | startSweeperEvery | stopSweeper
  | isSweeping => exact hcache

/-- An operation does the same to both sweepers: what they do is settled by the clock, the host and
the options. -/
theorem Shadows.sweeper_step (hshadows : Shadows shadow session) (hnow : shadow.now = session.now)
    (op : CacheOp κ ν) :
    (shadow.step op).2.swept.sweeper = (session.step op).2.swept.sweeper := by
  cases op with
  | startSweeper =>
    simp only [step, SweptCache.sweeper_start, SweptCache.sweeper_startEvery,
      hshadows.cache.options, hshadows.sweeper, hshadows.hosted, hnow]
  | startSweeperEvery interval =>
    simp only [step, SweptCache.sweeper_startEvery, hshadows.sweeper, hshadows.hosted, hnow]
  | sleep duration => simp only [step, SweptCache.sweeper_pass, hshadows.sweeper, hnow]
  | stopSweeper => rfl
  | set | get | has | delete | clear | cleanup | invalidate | size | statistics | capacity
  | defaultTtl | isSweeping => exact hshadows.sweeper

theorem hosted_step (session : CacheSession κ ν) (op : CacheOp κ ν) :
    (session.step op).2.hosted = session.hosted := by
  cases op <;> rfl

/-- An operation at one moment does the same to both sessions, if nothing is given up in the second
one. -/
theorem Shadows.step (hshadows : Shadows shadow session) (hnow : shadow.now = session.now)
    (hbounded : session.swept.cache.Bounded operations) {op : CacheOp κ ν}
    (hkept : session.evicted? op = none) : Shadows (shadow.step op).2 (session.step op).2 where
  cache := by
    rw [cache_step, cache_step, now_step]
    exact (hshadows.cacheAfter hnow hbounded hkept).mono (Nat.le_add_right _ _)
  sweeper := hshadows.sweeper_step hnow op
  hosted := by rw [hosted_step, hosted_step, hshadows.hosted]

/-- Lookups and questions are answered alike. -/
theorem Shadows.answer_eq (hshadows : Shadows shadow session) (hnow : shadow.now = session.now)
    (hdistinct : session.swept.cache.Distinct) {op : CacheOp κ ν} (hlookup : op.isLookup = true) :
    (shadow.step op).1 = (session.step op).1 := by
  cases op with
  | get key =>
    have hsame := (hshadows.cache.get hdistinct key).1
    rw [hnow] at hsame
    simp only [CacheSession.step, hnow, hsame]
  | has key =>
    have hsame := (hshadows.cache.has hdistinct key).1
    rw [hnow] at hsame
    simp only [CacheSession.step, hnow, hsame]
  | set | delete | clear | cleanup | invalidate | size | statistics | capacity | defaultTtl
  | startSweeper | startSweeperEvery | stopSweeper | isSweeping | sleep => cases hlookup

/-! ### Runs beside each other -/

/-- A step of a run with further sweeps, carried out at the moment that the clock reads. -/
def extend (session : CacheSession κ ν) (step : Nat × ExtendedOp κ ν) : CacheSession κ ν :=
  let session := session.setClock step.1
  match step.2 with
  | .given op => (session.step op).2
  | .cleanup => (session.step .cleanup).2
  | .tick => session.tick

/-- The session after a run with further sweeps. -/
def runExtended (session : CacheSession κ ν) (steps : List (Nat × ExtendedOp κ ν)) :
    CacheSession κ ν :=
  steps.foldl extend session

theorem runExtended_concat (session : CacheSession κ ν) (steps : List (Nat × ExtendedOp κ ν))
    (step : Nat × ExtendedOp κ ν) :
    session.runExtended (steps ++ [step]) = (session.runExtended steps).extend step := by
  simp [runExtended]

/-- The clock never goes back. -/
def ClockAdvances (session : CacheSession κ ν) : List (Nat × ExtendedOp κ ν) → Prop
  | [] => True
  | step :: steps => session.now ≤ step.1 ∧ ClockAdvances (session.extend step) steps

theorem clockAdvances_append {session : CacheSession κ ν}
    {before after : List (Nat × ExtendedOp κ ν)} :
    session.ClockAdvances (before ++ after) ↔
      session.ClockAdvances before ∧ (session.runExtended before).ClockAdvances after := by
  induction before generalizing session with
  | nil => exact (iff_of_eq (true_and _)).symm
  | cons step before ih =>
    rw [List.cons_append, ClockAdvances, ClockAdvances, ih, and_assoc]
    rfl

section Runs

variable (options : CacheOptions) (hosted : Bool) {steps : List (Nat × ExtendedOp κ ν)}

/-- As long as nothing is given up, a run with further sweeps shadows the run without them. -/
theorem shadows_runExtended (hclock : (start options hosted).ClockAdvances steps)
    (hkept : ((start options hosted).runTimed (ExtendedOp.givenOps steps)).swept.cache.evictions =
      0) :
    Shadows ((start options hosted).runExtended steps)
      ((start options hosted).runTimed (ExtendedOp.givenOps steps)) := by
  -- Induction on the extended run, one step more at its end.
  induction steps using List.reverseRecOn with
  | nil => exact ⟨Cache.Shadows.refl _ _, rfl, rfl⟩
  | append_singleton steps step ih =>
    obtain ⟨now, extendedOp⟩ := step
    rw [clockAdvances_append] at hclock
    obtain ⟨hbefore, hle, -⟩ := hclock
    rw [runExtended_concat]
    cases extendedOp with
    | given op =>
      rw [ExtendedOp.givenOps_concat_given, runTimed_concat] at hkept ⊢
      let event : CacheEvent κ ν :=
        ⟨((start options hosted).runTimed (ExtendedOp.givenOps steps)).setClock now, op⟩
      obtain ⟨hkeptBefore, hnone⟩ := event.evicted?_eq_none hkept
      have hshadows := ((ih hbefore hkeptBefore).setClock_left hle).setClock_right now
      exact hshadows.step rfl (bounded_runTimed options hosted _) hnone
    | cleanup | tick =>
      -- The other run stays where it is.
      rw [ExtendedOp.givenOps_concat_of_given?_eq_none _ _ rfl] at hkept ⊢
      exact ((ih hbefore hkept).setClock_left hle).tick

/-- Further sweeps go unnoticed. If a run gives nothing up and its clock does not go back, sweeps
may be added to it at any places, by calls or by ticks of a sweeper: it still gives nothing up,
every lookup and every question is answered as before, and after every step there are as many hits
and the same live entries, with the same values, deadlines, uses and touches. -/
theorem further_sweeps_unnoticed (hclock : (start options hosted).ClockAdvances steps)
    (hkept : ((start options hosted).runTimed (ExtendedOp.givenOps steps)).swept.cache.evictions =
      0) :
    ∀ before, before <+: steps →
      let session := (start options hosted).runTimed (ExtendedOp.givenOps before)
      let extended := (start options hosted).runExtended before
      extended.swept.cache.evictions = 0 ∧
        extended.swept.cache.hits = session.swept.cache.hits ∧
        (∀ now, extended.now ≤ now →
          extended.swept.cache.live now = session.swept.cache.live now) ∧
        ∀ now op, before ++ [(now, .given op)] <+: steps → op.isLookup = true →
          ((extended.setClock now).step op).1 = ((session.setClock now).step op).1 := by
  rintro before ⟨after, rfl⟩ session extended
  rw [ExtendedOp.givenOps_append] at hkept
  -- What is not given up at all is not given up until then.
  have hle := (atMost_runTimed options hosted (ExtendedOp.givenOps before)
    (ExtendedOp.givenOps after)).evictions
  have hkeptBefore : session.swept.cache.evictions = 0 := Nat.le_zero.mp (hkept ▸ hle)
  have hshadows : Shadows extended session :=
    shadows_runExtended options hosted (clockAdvances_append.mp hclock).1 hkeptBefore
  have hdistinct : session.swept.cache.Distinct := (bounded_runTimed options hosted _).distinct
  refine ⟨hshadows.cache.evictions.trans hkeptBefore, hshadows.cache.hits, fun now hnow => ?_,
    fun now op hnext hlookup => ?_⟩
  · exact (hshadows.cache.mono hnow).thinned.live
  · -- The clock has not gone back to the moment of the lookup.
    obtain ⟨rest, hrest⟩ := hnext
    rw [← hrest, List.append_assoc, clockAdvances_append] at hclock
    have hnow : extended.now ≤ now := hclock.2.1
    have hnext := (hshadows.setClock_left hnow).setClock_right now
    exact hnext.answer_eq rfl hdistinct hlookup

end Runs

/-- A tick takes an expired entry away, and the lookup that comes next finds nothing as before. -/
theorem further_sweeps_unnoticed_of_tick :
    let steps : List (Nat × ExtendedOp Nat String) :=
      [(0, .given (.set 1 "a" (some 5))), (0, .given (.set 2 "b" none)), (6, .tick),
        (7, .given (.get 2)), (8, .cleanup), (8, .given (.get 1))]
    let before := steps.take 5
    let session := (start ⟨2, none, none⟩ true).runTimed (ExtendedOp.givenOps before)
    let extended := (start ⟨2, none, none⟩ true).runExtended before
    (start ⟨2, none, none⟩ true).ClockAdvances steps ∧
      ((start ⟨2, none, none⟩ true).runTimed (ExtendedOp.givenOps steps)).swept.cache.evictions =
        0 ∧
      session.swept.cache.size = 2 ∧ extended.swept.cache.size = 1 ∧
      extended.swept.cache.evictions = 0 ∧
      extended.swept.cache.hits = session.swept.cache.hits ∧
      extended.swept.cache.live 8 = session.swept.cache.live 8 ∧
      ((extended.setClock 8).step (.get 1)).1 = ((session.setClock 8).step (.get 1)).1 := by
  intro steps before session extended
  have hclock : (start ⟨2, none, none⟩ true).ClockAdvances steps := by
    exact ⟨by decide, by decide, by decide, by decide, by decide, by decide, trivial⟩
  have hkept : ((start ⟨2, none, none⟩ true).runTimed
    (ExtendedOp.givenOps steps)).swept.cache.evictions = 0 := by decide
  have hbefore : before <+: steps := List.take_prefix 5 steps
  obtain ⟨hevictions, hhits, hlive, hanswers⟩ :=
    further_sweeps_unnoticed ⟨2, none, none⟩ true hclock hkept before hbefore
  have hnext : before ++ [(8, .given (.get 1))] <+: steps := List.prefix_refl steps
  exact ⟨hclock, hkept, by decide, by decide, hevictions, hhits, hlive 8 (by decide),
    hanswers 8 (.get 1) hnext rfl⟩

end CacheSession

end TemplateCatalog
