import Mathlib.Algebra.GroupWithZero.Nat
import Mathlib.Algebra.Order.BigOperators.Group.List
import Mathlib.Algebra.Order.Group.Nat
import TemplateCatalog.Proofs.Cache.History

/-!
# Bounds of a cache

What keeps the numbers of a cache small. A cache never holds more entries than it has places, the
touches of its entries have numbers of their own, and none of its counters gets ahead of the
operations that were carried out. None of this depends on the clock: the operations of a session may
come at any moments, even at earlier ones than those before them.

The module introduces:

* `TimedOp`, `CacheSession.runTimed`: operations at the moments that the clock reads;
* `Cache.Bounded`: a cache keeps within its bounds after so many operations;
* `Cache.FitsWords`: no number of a cache needs more than 64 bits.

Main statements:

* `Cache.perm_cons_without`: the entry that a key finds, put before the others.
* `CacheSession.bounded_step`: no operation breaks the bounds.
* `CacheSession.runTimed_keeps_bounds`: a cache keeps within its bounds in every run.
-/

namespace TemplateCatalog

/-- An operation with the moment that the clock reads when it is carried out. -/
abbrev TimedOp (κ ν : Type) : Type :=
  Nat × CacheOp κ ν

variable {κ ν : Type}

namespace Cache

/-- A cache keeps within its bounds after so many operations. -/
structure Bounded (operations : Nat) (cache : Cache κ ν) : Prop where
  /-- No two entries are stored under one key. -/
  distinct : cache.Distinct
  capacity_pos : 1 ≤ cache.options.capacity
  size_le : cache.size ≤ cache.options.capacity
  /-- No two entries were last touched by the same touch. -/
  touched_distinct : (cache.entries.map fun stored => stored.2.touched).Nodup
  touched_bounds : ∀ stored ∈ cache.entries,
    1 ≤ stored.2.touched ∧ stored.2.touched ≤ cache.touches
  totalUses_le : cache.totalUses ≤ cache.hits
  hits_le : cache.hits ≤ cache.touches
  /-- An operation touches one entry at most, or it misses. -/
  counted_le : cache.touches + cache.misses ≤ operations
  /-- An operation stores one entry at most, and an entry is dropped once. -/
  dropped_le : cache.expirations + cache.evictions + cache.size ≤ operations

/-- No number of a cache needs more than 64 bits. -/
structure FitsWords (cache : Cache κ ν) : Prop where
  touches : cache.touches < 2 ^ 64
  lookups : cache.hits + cache.misses < 2 ^ 64
  expirations : cache.expirations < 2 ^ 64
  evictions : cache.evictions < 2 ^ 64
  /-- The uses of some of the entries can be added up in any order. -/
  uses : ∀ first rest : List (κ × Entry ν), (first ++ rest).Perm cache.entries →
    (first.map fun stored => stored.2.uses).sum < 2 ^ 64

/-! ### Uses -/

theorem totalUses_eq_sum (cache : Cache κ ν) :
    cache.totalUses = (cache.entries.map fun stored => stored.2.uses).sum := by
  rw [List.sum_eq_foldl, List.foldl_map]
  rfl

theorem bounded_empty (options : CacheOptions) : (empty options : Cache κ ν).Bounded 0 where
  distinct := distinct_empty options
  capacity_pos := Nat.le_max_right _ _
  size_le := Nat.zero_le _
  touched_distinct := .nil
  touched_bounds := by simp [empty]
  totalUses_le := Nat.le_refl _
  hits_le := Nat.le_refl _
  counted_le := Nat.le_refl _
  dropped_le := Nat.le_refl _

variable {cache after : Cache κ ν} {operations : Nat}

theorem Bounded.mono (hbounded : cache.Bounded operations) {more : Nat}
    (hle : operations ≤ more) : cache.Bounded more :=
  { hbounded with
    counted_le := hbounded.counted_le.trans hle
    dropped_le := hbounded.dropped_le.trans hle }

/-- Dropping entries keeps a cache within its bounds, if it counts no more of them than it has
dropped. -/
theorem Bounded.of_sublist (hbounded : cache.Bounded operations)
    (hentries : after.entries.Sublist cache.entries) (hoptions : after.options = cache.options)
    (hhits : after.hits = cache.hits) (htouches : after.touches = cache.touches)
    (hmisses : after.misses = cache.misses)
    (hdropped : after.expirations + after.evictions + after.size ≤
      cache.expirations + cache.evictions + cache.size) :
    after.Bounded operations where
  distinct := hbounded.distinct.of_sublist hentries
  capacity_pos := hoptions ▸ hbounded.capacity_pos
  size_le := hoptions ▸ hentries.length_le.trans hbounded.size_le
  touched_distinct := hbounded.touched_distinct.sublist (hentries.map _)
  touched_bounds stored hstored :=
    htouches ▸ hbounded.touched_bounds stored (hentries.subset hstored)
  totalUses_le := by
    have hsum := (hentries.map fun stored => stored.2.uses).sum_le_sum fun _ _ => Nat.zero_le _
    rw [hhits, totalUses_eq_sum]
    exact hsum.trans (totalUses_eq_sum cache ▸ hbounded.totalUses_le)
  hits_le := by rw [hhits, htouches]; exact hbounded.hits_le
  counted_le := by rw [htouches, hmisses]; exact hbounded.counted_le
  dropped_le := hdropped.trans hbounded.dropped_le

/-- After fewer than `2 ^ 64` operations no number needs more than 64 bits. -/
theorem Bounded.fitsWords (hbounded : cache.Bounded operations) (hfew : operations < 2 ^ 64) :
    cache.FitsWords := by
  obtain ⟨-, -, -, -, -, huses, hhits, hcounted, hdropped⟩ := hbounded
  refine ⟨by omega, by omega, by omega, by omega, fun first rest hperm => ?_⟩
  -- Some of the uses add up to no more than all of them.
  have htotal := (hperm.map fun stored => stored.2.uses).sum_eq
  rw [List.map_append, List.sum_append, ← totalUses_eq_sum] at htotal
  omega

theorem Bounded.sweep (hbounded : cache.Bounded operations) (now : Nat) :
    (cache.sweep now).2.Bounded operations := by
  refine hbounded.of_sublist List.filter_sublist rfl rfl rfl rfl ?_
  -- What a sweep drops it counts as expired.
  have hsize := cache.size_sweep_add now
  have hexpirations : (cache.sweep now).2.expirations =
      cache.expirations + (cache.sweep now).1 := rfl
  have hevictions : (cache.sweep now).2.evictions = cache.evictions := rfl
  omega

end Cache

variable [DecidableEq κ]

namespace Cache

/-! ### Entries in place of others -/

/-- The entry that a key finds, put before the others, makes up all entries. -/
theorem perm_cons_without {entries : List (κ × Entry ν)} {key : κ} {entry : Entry ν}
    (hdistinct : (entries.map Prod.fst).Nodup) (hfound : entries.lookup key = some entry) :
    entries.Perm ((key, entry) :: without key entries) := by
  obtain ⟨before, rest, rfl, hbefore⟩ := List.lookup_eq_some_iff.mp hfound
  rw [List.map_append, List.map_cons] at hdistinct
  obtain ⟨-, hrest, -⟩ := List.nodup_append.mp hdistinct
  -- Taking out the key takes out this entry, and no other has the key.
  have hkept : ∀ stored ∈ before ++ rest, stored.1 ≠ key := by
    intro stored hstored hsame
    rcases List.mem_append.mp hstored with hmem | hmem
    · exact absurd hsame.symm (by simpa using hbefore stored hmem)
    · exact (List.nodup_cons.mp hrest).1 (List.mem_map.mpr ⟨stored, hmem, hsame⟩)
  have hwithout : without key (before ++ (key, entry) :: rest) = before ++ rest := by
    rw [without, List.filter_append, List.filter_cons_of_neg (by simp), ← List.filter_append]
    exact List.filter_eq_self.mpr fun stored hstored => decide_eq_true (hkept stored hstored)
  rw [hwithout]
  exact List.perm_middle

/-- Without the entry that a key finds there is one entry less. -/
theorem length_without_add_one {entries : List (κ × Entry ν)} {key : κ} {entry : Entry ν}
    (hdistinct : (entries.map Prod.fst).Nodup) (hfound : entries.lookup key = some entry) :
    (without key entries).length + 1 = entries.length :=
  (perm_cons_without hdistinct hfound).length_eq.symm

variable {cache : Cache κ ν} {operations : Nat} {key : κ}

theorem Bounded.without (hbounded : cache.Bounded operations) (key : κ) :
    { cache with entries := without key cache.entries }.Bounded operations :=
  hbounded.of_sublist List.filter_sublist rfl rfl rfl rfl
    (Nat.add_le_add_left List.filter_sublist.length_le _)

/-- An entry that is touched may take the place of the one under its key, if there is a place for it
and its uses are accounted for. -/
theorem Bounded.put (hbounded : cache.Bounded operations) {entry : Entry ν} {hits : Nat}
    (htouched : entry.touched = cache.touches + 1) (hhits : hits ≤ cache.hits + 1)
    (huses : (((key, entry) :: Cache.without key cache.entries).map fun stored =>
      stored.2.uses).sum ≤ hits)
    (hsize : (Cache.without key cache.entries).length < cache.options.capacity) :
    { cache with
      entries := (key, entry) :: Cache.without key cache.entries
      hits
      touches := cache.touches + 1 }.Bounded (operations + 1) where
  distinct := nodup_cons_without hbounded.distinct key entry
  capacity_pos := hbounded.capacity_pos
  size_le := hsize
  touched_distinct := by
    rw [List.map_cons, List.nodup_cons]
    refine ⟨fun hmem => ?_, (hbounded.without key).touched_distinct⟩
    -- The number is a new one.
    obtain ⟨stored, hstored, hsame⟩ := List.mem_map.mp hmem
    have hle := ((hbounded.without key).touched_bounds stored hstored).2
    rw [hsame, htouched] at hle
    exact Nat.not_succ_le_self _ hle
  touched_bounds stored hstored := by
    rcases List.mem_cons.mp hstored with rfl | hstored
    · rw [htouched]
      exact ⟨Nat.succ_pos _, Nat.le_refl _⟩
    · obtain ⟨hpos, hle⟩ := (hbounded.without key).touched_bounds stored hstored
      exact ⟨hpos, Nat.le_succ_of_le hle⟩
  totalUses_le := by
    rw [totalUses_eq_sum]
    exact huses
  hits_le := hhits.trans (Nat.succ_le_succ hbounded.hits_le)
  counted_le := by
    have hcounted := hbounded.counted_le
    show cache.touches + 1 + cache.misses ≤ operations + 1
    omega
  dropped_le := by
    have hdropped := (hbounded.without key).dropped_le
    exact Nat.succ_le_succ hdropped

/-! ### One operation -/

omit [DecidableEq κ] in
/-- Among some entries there is one that is given up first. -/
theorem exists_victim? {entries : List (κ × Entry ν)} (hne : entries ≠ []) :
    ∃ stored ∈ entries, victim? entries = some stored := by
  induction entries with
  | nil => exact absurd rfl hne
  | cons first rest ih =>
    rw [victim?]
    by_cases hrest : rest = []
    · subst hrest
      exact ⟨first, List.mem_cons_self, rfl⟩
    · obtain ⟨other, hother, hvictim⟩ := ih hrest
      rw [hvictim]
      dsimp only
      split
      · exact ⟨other, List.mem_cons_of_mem _ hother, rfl⟩
      · exact ⟨first, List.mem_cons_self, rfl⟩

/-- To give up an entry changes nothing but the entries and the count of evictions. -/
theorem evict_of_victim? {stored : κ × Entry ν} (hvictim : victim? cache.entries = some stored) :
    cache.evict = { cache with
      entries := without stored.1 cache.entries
      evictions := cache.evictions + 1 } := by
  rw [evict, hvictim]

/-- If something has to be given up, something is stored. -/
theorem Bounded.ne_nil_of_isFullFor (hbounded : cache.Bounded operations)
    (hfull : cache.isFullFor key = true) : cache.entries ≠ [] := by
  rintro hnil
  rw [isFullFor, Bool.and_eq_true, decide_eq_true_eq, size, hnil, List.length_nil] at hfull
  have hpos := hbounded.capacity_pos
  omega

theorem Bounded.evict (hbounded : cache.Bounded operations) (hne : cache.entries ≠ []) :
    cache.evict.Bounded operations ∧ cache.evict.size < cache.options.capacity := by
  obtain ⟨stored, hstored, hvictim⟩ := exists_victim? hne
  have hlength := length_without_add_one hbounded.distinct
    ((Pairs.lookup_eq_some_iff_mem hbounded.distinct).mpr hstored)
  have hsize : (Cache.without stored.1 cache.entries).length + 1 ≤ cache.options.capacity :=
    hlength ▸ hbounded.size_le
  rw [evict_of_victim? hvictim]
  refine ⟨hbounded.of_sublist List.filter_sublist rfl rfl rfl rfl ?_, hsize⟩
  show cache.expirations + (cache.evictions + 1) + (Cache.without stored.1 cache.entries).length ≤
    cache.expirations + cache.evictions + cache.entries.length
  omega

theorem Bounded.expire (hbounded : cache.Bounded operations) {entry : Entry ν}
    (hfound : cache.find? key = some entry) : (cache.expire key).Bounded operations := by
  have hlength := length_without_add_one hbounded.distinct hfound
  refine hbounded.of_sublist List.filter_sublist rfl rfl rfl rfl ?_
  show cache.expirations + 1 + cache.evictions + (Cache.without key cache.entries).length ≤
    cache.expirations + cache.evictions + cache.entries.length
  omega

theorem Bounded.set (hbounded : cache.Bounded operations) (now : Nat) (key : κ) (value : ν)
    (ttl : Option Nat) : (cache.set now key value ttl).Bounded (operations + 1) := by
  have hzero : ∀ room : Cache κ ν, room.Bounded operations →
      ∀ entry : Entry ν, entry.uses = 0 →
        (((key, entry) :: Cache.without key room.entries).map fun stored =>
          stored.2.uses).sum ≤ room.hits := by
    intro room hroom entry huses
    rw [List.map_cons, List.sum_cons, huses, Nat.zero_add, ← totalUses_eq_sum
      { room with entries := Cache.without key room.entries }]
    exact (hroom.without key).totalUses_le
  unfold Cache.set
  cases hfull : cache.isFullFor key with
  | true =>
    -- One entry is given up, and its place is free.
    have hne := hbounded.ne_nil_of_isFullFor hfull
    obtain ⟨hroom, hsize⟩ := hbounded.evict hne
    obtain ⟨stored, -, hvictim⟩ := exists_victim? hne
    rw [evict_of_victim? hvictim] at hroom hsize ⊢
    exact hroom.put rfl (Nat.le_succ _) (hzero _ hroom _ rfl)
      (List.filter_sublist.length_le.trans_lt hsize)
  | false =>
    refine hbounded.put rfl (Nat.le_succ _) (hzero _ hbounded _ rfl) ?_
    cases hfound : cache.find? key with
    | none =>
      have hspace : cache.size < cache.options.capacity := by
        simpa [isFullFor, hfound] using hfull
      exact List.filter_sublist.length_le.trans_lt hspace
    | some entry =>
      -- The key is stored, and its place is taken over.
      have hlength := length_without_add_one hbounded.distinct hfound
      have hsize : cache.entries.length ≤ cache.options.capacity := hbounded.size_le
      omega

theorem Bounded.get (hbounded : cache.Bounded operations) (now : Nat) (key : κ) :
    (cache.get now key).2.Bounded (operations + 1) := by
  unfold Cache.get
  cases hfound : cache.find? key with
  | none =>
    exact { hbounded.mono (Nat.le_succ _) with
      counted_le := Nat.succ_le_succ hbounded.counted_le }
  | some entry =>
    dsimp only
    split
    · exact (hbounded.expire hfound).mono (Nat.le_succ _)
    · have hperm := perm_cons_without hbounded.distinct hfound
      have hlength := length_without_add_one hbounded.distinct hfound
      have hsize : cache.entries.length ≤ cache.options.capacity := hbounded.size_le
      refine hbounded.put rfl (Nat.le_refl _) ?_ (by omega)
      -- The entry has one use more, and so has the cache one hit.
      have hsum := (hperm.map fun stored => stored.2.uses).sum_eq
      have htotal := hbounded.totalUses_le
      rw [totalUses_eq_sum, hsum, List.map_cons, List.sum_cons] at htotal
      rw [List.map_cons, List.sum_cons]
      dsimp only at htotal ⊢
      omega

theorem Bounded.has (hbounded : cache.Bounded operations) (now : Nat) (key : κ) :
    (cache.has now key).2.Bounded operations := by
  unfold Cache.has
  cases hfound : cache.find? key with
  | none => exact hbounded
  | some entry =>
    dsimp only
    split
    · exact hbounded.expire hfound
    · exact hbounded

/-- A key that is found to be stored and live is there to be looked up: its entry has stayed in its
place, and its value is the answer. -/
theorem find?_has_of_live {now : Nat} (hlive : (cache.has now key).1 = true) :
    ∃ entry, (cache.has now key).2.find? key = some entry ∧
      (cache.get now key).1 = some entry.value := by
  unfold Cache.has at hlive ⊢
  unfold Cache.get
  cases hfound : cache.find? key with
  | none => simp [hfound] at hlive
  | some entry =>
    cases hexpired : entry.isExpired now with
    | true => simp [hfound, hexpired] at hlive
    | false => exact ⟨entry, by simp [hfound, hexpired]⟩

end Cache

namespace CacheSession

/-- No operation breaks the bounds. -/
theorem bounded_step {session : CacheSession κ ν} {operations : Nat}
    (hbounded : session.swept.cache.Bounded operations) (op : CacheOp κ ν) :
    (session.step op).2.swept.cache.Bounded (operations + 1) := by
  -- All operations but two do without a further touch and without a further miss.
  have hkept := hbounded.mono (Nat.le_succ operations)
  rw [cache_step]
  cases op with
  | set key value ttl => exact hbounded.set _ _ _ _
  | get key => exact hbounded.get _ _
  | has key => exact hkept.has _ _
  | delete key => exact hkept.without key
  | clear => exact hkept.of_sublist (List.nil_sublist _) rfl rfl rfl rfl (Nat.le_add_right _ _)
  | cleanup => exact hkept.sweep _
  | invalidate matched =>
    exact hkept.of_sublist List.filter_sublist rfl rfl rfl rfl
      (Nat.add_le_add_left List.filter_sublist.length_le _)
  | sleep duration =>
    exact Cache.sweepAll_induction hkept (fun _ moment hswept => hswept.sweep moment) _
  | size | statistics | capacity | defaultTtl | startSweeper | startSweeperEvery | stopSweeper
  | isSweeping => exact hkept

/-! ### Runs -/

omit [DecidableEq κ] in
/-- The session at another moment, which may lie before the present one. -/
def setClock (moment : Nat) (session : CacheSession κ ν) : CacheSession κ ν :=
  { session with now := moment }

/-- The session after some operations, each of them carried out at the moment that the clock reads
then. -/
def runTimed (session : CacheSession κ ν) (ops : List (TimedOp κ ν)) : CacheSession κ ν :=
  ops.foldl (fun session timed => ((session.setClock timed.1).step timed.2).2) session

@[simp] theorem runTimed_concat (session : CacheSession κ ν) (ops : List (TimedOp κ ν))
    (timed : TimedOp κ ν) :
    session.runTimed (ops ++ [timed]) =
      (((session.runTimed ops).setClock timed.1).step timed.2).2 := by
  simp [runTimed]

section Bounds

variable (options : CacheOptions) (hosted : Bool) (ops : List (TimedOp κ ν))

theorem options_runTimed : ((start options hosted).runTimed ops).swept.cache.options =
    { options with capacity := max options.capacity 1 } := by
  induction ops using List.reverseRecOn with
  | nil => rfl
  | append_singleton ops timed ih => rw [runTimed_concat, options_step]; exact ih

theorem bounded_runTimed :
    ((start options hosted).runTimed ops).swept.cache.Bounded ops.length := by
  induction ops using List.reverseRecOn with
  | nil => exact Cache.bounded_empty options
  | append_singleton ops timed ih =>
    rw [runTimed_concat, List.length_append, List.length_singleton]
    let session := ((start options hosted).runTimed ops).setClock timed.1
    have hbounded : session.swept.cache.Bounded ops.length := ih
    exact bounded_step hbounded timed.2

end Bounds

/-- A cache keeps within its bounds in every run, whatever the clock reads: there is a place at
least, and no entry without one; the touches have numbers of their own; there are no more uses than
hits, and no more hits than touches. If the run has fewer than `2 ^ 64` operations, no number needs
more than 64 bits. And what has just been found to be live can be looked up. -/
theorem runTimed_keeps_bounds (options : CacheOptions) (hosted : Bool) {ops : List (TimedOp κ ν)}
    (hfew : ops.length < 2 ^ 64) :
    let cache := ((start options hosted).runTimed ops).swept.cache
    cache.options.capacity = max options.capacity 1 ∧ cache.Bounded ops.length ∧
      cache.FitsWords ∧
      ∀ now key, (cache.has now key).1 = true →
        ∃ entry, (cache.has now key).2.find? key = some entry ∧
          (cache.get now key).1 = some entry.value := by
  intro cache
  have hbounded : cache.Bounded ops.length := bounded_runTimed options hosted ops
  have hoptions : cache.options = { options with capacity := max options.capacity 1 } :=
    options_runTimed options hosted ops
  refine ⟨?_, hbounded, hbounded.fitsWords hfew, fun now key hlive => ?_⟩
  · rw [hoptions]
  · exact Cache.find?_has_of_live hlive

/-- A cache that is asked for no places has one, and keeps to it while its clock goes back. -/
theorem bounds_of_rewound_clock :
    let ops : List (TimedOp Nat String) :=
      [(9, .set 1 "a" (some 5)), (2, .get 1), (4, .set 2 "b" none), (3, .get 2)]
    let cache := ((start ⟨0, none, none⟩ false).runTimed ops).swept.cache
    ops.length < 2 ^ 64 ∧ cache.options.capacity = 1 ∧ cache.size ≤ 1 ∧ cache.hits ≤ cache.touches ∧
      cache.FitsWords := by
  intro ops cache
  have hfew : ops.length < 2 ^ 64 := by decide
  obtain ⟨hcapacity, hbounded, hfits, -⟩ := runTimed_keeps_bounds ⟨0, none, none⟩ false hfew
  have hsize : cache.size ≤ cache.options.capacity := hbounded.size_le
  exact ⟨hfew, hcapacity, hsize.trans_eq hcapacity, hbounded.hits_le, hfits⟩

end CacheSession

end TemplateCatalog
