import TemplateCatalog.Cache.Session

/-!
# What operations do to a cache

Most operations of a session ask the cache for something or see to its sweeper, and leave the cache
itself alone. The others store, look up or remove entries, or let time pass, and then the sweeper
ticks at every whole interval after its start. A tick sweeps the cache just as a call does. The
passage of time makes do with the last of its ticks, since a sweep leaves nothing behind that an
earlier one would have dropped; so it is as if they had all taken place, one after another.

The module introduces:

* `Cache.live`: the entries that have not expired;
* `Cache.sweepAll`, `Cache.dropped`: sweeps one after another, and how many entries they drop;
* `SweptCache.ticks`: when a sweeper ticks until a later moment;
* `CacheSession.tick`: a tick of a sweeper at the present moment;
* `CacheSession.cacheAfter`: what an operation makes of the cache.

Main statements:

* `Cache.sweep_sweep`: a sweep makes up for earlier ones.
* `SweptCache.cache_pass`: what the passage of time does is what the ticks do.
* `CacheSession.cache_step`: what an operation does to the cache.
-/

namespace TemplateCatalog

variable {κ ν : Type}

/-- What has expired stays expired. -/
theorem Entry.isExpired_mono {entry : Entry ν} {now later : Nat} (hle : now ≤ later)
    (hexpired : entry.isExpired now = true) : entry.isExpired later = true := by
  rw [isExpired, Option.any_eq_true] at hexpired ⊢
  obtain ⟨deadline, hdeadline, hreached⟩ := hexpired
  refine ⟨deadline, hdeadline, ?_⟩
  rw [decide_eq_true_eq] at hreached ⊢
  exact Nat.le_trans hreached hle

namespace Cache

/-! ### Sweeps -/

/-- The entries that have not expired. -/
def live (now : Nat) (cache : Cache κ ν) : List (κ × Entry ν) :=
  cache.entries.filter fun stored => !stored.2.isExpired now

/-- The cache after sweeps at some moments, one after another. -/
def sweepAll (moments : List Nat) (cache : Cache κ ν) : Cache κ ν :=
  moments.foldl (fun cache now => (cache.sweep now).2) cache

/-- How many entries the sweeps at some moments drop, one after another. -/
def dropped : List Nat → Cache κ ν → Nat
  | [], _ => 0
  | now :: moments, cache => (cache.sweep now).1 + dropped moments (cache.sweep now).2

/-- What is live later is live before. -/
theorem filter_live {now later : Nat} (hle : now ≤ later) (entries : List (κ × Entry ν)) :
    (entries.filter fun stored => !stored.2.isExpired now).filter
        (fun stored => !stored.2.isExpired later) =
      entries.filter fun stored => !stored.2.isExpired later := by
  rw [List.filter_filter]
  refine List.filter_congr fun stored _ => ?_
  cases hnow : stored.2.isExpired now with
  | false => rw [Bool.not_false, Bool.and_true]
  | true => rw [Entry.isExpired_mono hle hnow, Bool.not_true, Bool.false_and]

/-- A sweep drops nothing that is live later. -/
theorem live_sweep {now later : Nat} (hle : now ≤ later) (cache : Cache κ ν) :
    (cache.sweep now).2.live later = cache.live later :=
  filter_live hle cache.entries

/-- A sweep makes up for an earlier one, in what it keeps and in what it counts. -/
theorem sweep_sweep {now later : Nat} (hle : now ≤ later) (cache : Cache κ ν) :
    ((cache.sweep now).2.sweep later).2 = (cache.sweep later).2 := by
  have hsize := cache.size_sweep_add now
  have hlater := cache.size_sweep_add later
  have hboth := (cache.sweep now).2.size_sweep_add later
  have hentries : ((cache.sweep now).2.sweep later).2.entries = (cache.sweep later).2.entries :=
    live_sweep hle cache
  have hcount : (cache.sweep now).1 + ((cache.sweep now).2.sweep later).1 =
      (cache.sweep later).1 := by
    rw [size, hentries, ← size] at hboth
    omega
  -- Beside the entries only the count of expired ones has changed.
  have hexpirations : cache.expirations + (cache.sweep now).1 +
      ((cache.sweep now).2.sweep later).1 = cache.expirations + (cache.sweep later).1 := by
    rw [Nat.add_assoc, hcount]
  show ({ cache with
      entries := ((cache.sweep now).2.sweep later).2.entries
      expirations := cache.expirations + (cache.sweep now).1 +
        ((cache.sweep now).2.sweep later).1 } : Cache κ ν) = _
  rw [hentries, hexpirations]
  rfl

theorem sweepAll_append (earlier later : List Nat) (cache : Cache κ ν) :
    cache.sweepAll (earlier ++ later) = (cache.sweepAll earlier).sweepAll later :=
  List.foldl_append

/-- What every sweep keeps, sweeps one after another keep. -/
theorem sweepAll_induction {p : Cache κ ν → Prop} {cache : Cache κ ν} (hcache : p cache)
    (hsweep : ∀ (swept : Cache κ ν) (now : Nat), p swept → p (swept.sweep now).2)
    (moments : List Nat) : p (cache.sweepAll moments) := by
  induction moments generalizing cache with
  | nil => exact hcache
  | cons now moments ih => exact ih (hsweep cache now hcache)

theorem options_sweepAll (moments : List Nat) (cache : Cache κ ν) :
    (cache.sweepAll moments).options = cache.options := by
  induction moments generalizing cache with
  | nil => rfl
  | cons now moments ih => exact ih (cache.sweep now).2

/-- The last one of several sweeps does what they all do. -/
theorem sweepAll_concat {moments : List Nat} {last : Nat} (hle : ∀ now ∈ moments, now ≤ last)
    (cache : Cache κ ν) : cache.sweepAll (moments ++ [last]) = (cache.sweep last).2 := by
  rw [sweepAll_append]
  induction moments generalizing cache with
  | nil => rfl
  | cons now moments ih =>
    have hrest := ih (fun later hlater => hle later (List.mem_cons_of_mem now hlater))
      (cache.sweep now).2
    exact hrest.trans (sweep_sweep (hle now List.mem_cons_self) cache)

/-- What sweeps drop is no longer stored. -/
theorem size_sweepAll_add (moments : List Nat) (cache : Cache κ ν) :
    (cache.sweepAll moments).size + cache.dropped moments = cache.size := by
  induction moments generalizing cache with
  | nil => rfl
  | cons now moments ih =>
    have hrest := ih (cache.sweep now).2
    have hfirst := cache.size_sweep_add now
    show ((cache.sweep now).2.sweepAll moments).size +
      ((cache.sweep now).1 + (cache.sweep now).2.dropped moments) = cache.size
    omega

end Cache

/-! ### Ticks -/

namespace Sweeper

/-- When a sweeper ticks until a later moment: at its next moment, and then at every interval. -/
def ticks (later : Nat) (sweeper : Sweeper) : List Nat :=
  if later < sweeper.due then []
  else (List.range ((later - sweeper.due) / sweeper.interval + 1)).map fun n =>
    sweeper.due + n * sweeper.interval

/-- The last moment at which a sweeper ticks until a later one. -/
def lastTick (later : Nat) (sweeper : Sweeper) : Nat :=
  later - (later - sweeper.due) % sweeper.interval

variable {sweeper : Sweeper} {later : Nat}

theorem lastTick_eq (hdue : sweeper.due ≤ later) : sweeper.lastTick later =
    sweeper.due + (later - sweeper.due) / sweeper.interval * sweeper.interval := by
  have hdivision := Nat.div_add_mod (later - sweeper.due) sweeper.interval
  rw [Nat.mul_comm] at hdivision
  rw [lastTick]
  omega

/-- A sweeper that is due ticks some times, and then for the last time. -/
theorem exists_ticks_eq (hdue : sweeper.due ≤ later) :
    ∃ earlier, sweeper.ticks later = earlier ++ [sweeper.lastTick later] ∧
      ∀ now ∈ earlier, now ≤ sweeper.lastTick later := by
  rw [ticks, if_neg (Nat.not_lt_of_le hdue), List.range_succ, List.map_append, lastTick_eq hdue]
  refine ⟨_, rfl, fun now hnow => ?_⟩
  obtain ⟨n, hn, rfl⟩ := List.mem_map.mp hnow
  -- No more intervals have passed at this tick than at the last one.
  have hlt : n < (later - sweeper.due) / sweeper.interval := List.mem_range.mp hn
  apply Nat.add_le_add_left
  apply Nat.mul_le_mul_right
  exact Nat.le_of_lt hlt

theorem lastTick_le (sweeper : Sweeper) (later : Nat) : sweeper.lastTick later ≤ later :=
  Nat.sub_le _ _

/-- The sweeper after it has ticked for the last time until a moment. -/
def moved (later : Nat) (sweeper : Sweeper) : Sweeper :=
  { sweeper with due := sweeper.lastTick later + sweeper.interval }

/-- A sweeper does not tick in the future. -/
theorem le_of_mem_ticks {now : Nat} (hnow : now ∈ sweeper.ticks later) : now ≤ later := by
  by_cases hdue : sweeper.due ≤ later
  · obtain ⟨earlier, hticks, hearlier⟩ := exists_ticks_eq hdue
    rw [hticks, List.mem_append, List.mem_singleton] at hnow
    have hlast : now ≤ sweeper.lastTick later := hnow.elim (hearlier now) Nat.le_of_eq
    exact Nat.le_trans hlast (sweeper.lastTick_le later)
  · rw [ticks, if_pos (Nat.lt_of_not_le hdue)] at hnow
    cases hnow

end Sweeper

namespace SweptCache

variable {swept : SweptCache κ ν}

/-- When a sweeper ticks until a later moment, if one is running. -/
def ticks (later : Nat) (swept : SweptCache κ ν) : List Nat :=
  match swept.sweeper with
  | none => []
  | some sweeper => sweeper.ticks later

theorem ticks_of_none (hsweeper : swept.sweeper = none) (later : Nat) : swept.ticks later = [] := by
  rw [ticks, hsweeper]

theorem ticks_of_some {sweeper : Sweeper} (hsweeper : swept.sweeper = some sweeper) (later : Nat) :
    swept.ticks later = sweeper.ticks later := by
  rw [ticks, hsweeper]

theorem le_of_mem_ticks {now later : Nat} (hnow : now ∈ swept.ticks later) : now ≤ later := by
  cases hsweeper : swept.sweeper with
  | none =>
    rw [ticks_of_none hsweeper] at hnow
    cases hnow
  | some sweeper =>
    rw [ticks_of_some hsweeper] at hnow
    exact Sweeper.le_of_mem_ticks hnow

/-- What time makes of a cache with a running sweeper that is due. -/
theorem pass_of_due {sweeper : Sweeper} (hsweeper : swept.sweeper = some sweeper) {later : Nat}
    (hdue : sweeper.due ≤ later) : swept.pass later =
      { cache := (swept.cache.sweep (sweeper.lastTick later)).2
        sweeper := some (sweeper.moved later) } := by
  rw [pass, hsweeper]
  exact if_neg (Nat.not_lt_of_le hdue)

/-- Before the sweeper is due, time changes nothing. -/
theorem pass_of_lt {sweeper : Sweeper} (hsweeper : swept.sweeper = some sweeper) {later : Nat}
    (hdue : later < sweeper.due) : swept.pass later = swept := by
  rw [pass, hsweeper]
  exact if_pos hdue

/-- Without a sweeper, time changes nothing. -/
theorem pass_of_none (hsweeper : swept.sweeper = none) (later : Nat) :
    swept.pass later = swept := by
  rw [pass, hsweeper]

/-- What the passage of time does to a cache is what the ticks of its sweeper do, one after
another. -/
theorem cache_pass (swept : SweptCache κ ν) (later : Nat) :
    (swept.pass later).cache = swept.cache.sweepAll (swept.ticks later) := by
  cases hsweeper : swept.sweeper with
  | none =>
    rw [pass_of_none hsweeper, ticks_of_none hsweeper]
    rfl
  | some sweeper =>
    rw [ticks_of_some hsweeper]
    by_cases hdue : sweeper.due ≤ later
    · obtain ⟨earlier, hticks, hearlier⟩ := Sweeper.exists_ticks_eq hdue
      rw [pass_of_due hsweeper hdue, hticks, Cache.sweepAll_concat hearlier]
    · rw [pass_of_lt hsweeper (Nat.lt_of_not_le hdue), Sweeper.ticks,
        if_pos (Nat.lt_of_not_le hdue)]
      rfl

end SweptCache

namespace CacheSession

variable [DecidableEq κ]

/-- A tick of a sweeper at the present moment. -/
def tick (session : CacheSession κ ν) : CacheSession κ ν :=
  session.withCache (session.swept.cache.sweep session.now).2

/-- What an operation makes of the cache of a session. -/
def cacheAfter (session : CacheSession κ ν) : CacheOp κ ν → Cache κ ν
  | .set key value ttl => session.swept.cache.set session.now key value ttl
  | .get key => (session.swept.cache.get session.now key).2
  | .has key => (session.swept.cache.has session.now key).2
  | .delete key => (session.swept.cache.delete key).2
  | .clear => session.swept.cache.clear
  | .cleanup => (session.swept.cache.sweep session.now).2
  | .invalidate matched => (session.swept.cache.invalidate matched).2
  | .sleep duration =>
    session.swept.cache.sweepAll (session.swept.ticks (session.now + duration))
  | .size | .statistics | .capacity | .defaultTtl | .startSweeper | .startSweeperEvery _
  | .stopSweeper | .isSweeping => session.swept.cache

/-- What an operation does to the cache of a session. -/
theorem cache_step (session : CacheSession κ ν) (op : CacheOp κ ν) :
    (session.step op).2.swept.cache = session.cacheAfter op := by
  cases op with
  | startSweeper =>
    simp only [step, SweptCache.start, SweptCache.startEvery, cacheAfter]
    split
    · split <;> rfl
    · rfl
  | startSweeperEvery interval =>
    simp only [step, SweptCache.startEvery, cacheAfter]
    split <;> rfl
  | sleep duration => exact SweptCache.cache_pass _ _
  | set | get | has | delete | clear | cleanup | invalidate | size | statistics | capacity
  | defaultTtl | stopSweeper | isSweeping => rfl

end CacheSession

end TemplateCatalog
