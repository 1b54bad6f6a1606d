import Mathlib.Data.List.DropRight
import Mathlib.Data.List.Nodup
import TemplateCatalog.Proofs.Cache.Bounds

/-!
# Which entry is given up

When something is stored and there is no place for it, the entry is given up that has been found
least often since it was stored, and of several such entries the one that was stored or found
longest ago. The operations that were carried out settle which one this is: no two entries were
last touched by one operation, so there are no ties, and the order in which a cache happens to keep
its entries makes no difference.

The module introduces:

* `CacheEvent`, `CacheSession.events`: a history of operations with what they answered;
* `CacheEvent.uses`, `CacheEvent.lastTouch`: how often and when a key was used, by its history;
* `CacheSession.GivesUp`: what is given up for a new entry.

Main statements:

* `CacheSession.found_after`: where an entry that is found after an operation comes from.
* `CacheSession.tracked_runTimed`: the numbers of an entry are what its history says.
* `Cache.victim?_of_perm`: the order of the entries does not matter.
* `CacheSession.set_gives_up_least_used`: what is given up when something is stored.
-/

namespace TemplateCatalog

variable {κ ν : Type}

/-- An operation together with the session in which it was carried out. -/
structure CacheEvent (κ ν : Type) where
  /-- The session before the operation. -/
  session : CacheSession κ ν
  /-- The operation. -/
  op : CacheOp κ ν

variable [DecidableEq κ]

/-! ### Uses in a history -/

omit [DecidableEq κ] in
/-- The answer is a value that was found. -/
def CacheAnswer.isFound : CacheAnswer κ ν → Bool
  | .found value => value.isSome
  | _ => false

namespace CacheEvent

/-- Something is stored under the key. -/
def stores (key : κ) (event : CacheEvent κ ν) : Bool :=
  match event.op with
  | .set other _ _ => other = key
  | _ => false

/-- The key is looked up, and a value is found. -/
def finds (key : κ) (event : CacheEvent κ ν) : Bool :=
  match event.op with
  | .get other => other = key && (event.session.step (.get other)).1.isFound
  | _ => false

/-- Something is stored or found under the key. -/
def touches (key : κ) (event : CacheEvent κ ν) : Bool :=
  event.stores key || event.finds key

/-- How often the key was found since something was last stored under it. -/
def uses (key : κ) (events : List (CacheEvent κ ν)) : Nat :=
  (events.rtakeWhile fun event => !event.stores key).countP fun event => event.finds key

/-- The place in the history, counted from one, where something was last stored or found under the
key; zero if there is none. -/
def lastTouch (key : κ) (events : List (CacheEvent κ ν)) : Nat :=
  (events.rdropWhile fun event => !event.touches key).length

theorem uses_concat (key : κ) (events : List (CacheEvent κ ν)) (event : CacheEvent κ ν) :
    uses key (events ++ [event]) =
      if event.stores key then 0 else uses key events + if event.finds key then 1 else 0 := by
  unfold uses
  cases hstores : event.stores key with
  | true =>
    rw [List.rtakeWhile_concat_neg _ _ _ (by simp [hstores])]
    rfl
  | false =>
    rw [List.rtakeWhile_concat_pos _ _ _ (by simp [hstores]), List.countP_append]
    simp [List.countP_singleton]

theorem lastTouch_concat (key : κ) (events : List (CacheEvent κ ν)) (event : CacheEvent κ ν) :
    lastTouch key (events ++ [event]) =
      if event.touches key then events.length + 1 else lastTouch key events := by
  unfold lastTouch
  cases htouches : event.touches key with
  | true =>
    rw [List.rdropWhile_concat_neg _ _ _ (by simp [htouches])]
    simp
  | false =>
    rw [List.rdropWhile_concat_pos _ _ _ (by simp [htouches])]
    simp

theorem lastTouch_le (key : κ) (events : List (CacheEvent κ ν)) :
    lastTouch key events ≤ events.length :=
  (List.rdropWhile_prefix _ _).length_le

end CacheEvent

namespace CacheSession

/-- The history that operations make, carried out at the moments that the clock reads. -/
def events (session : CacheSession κ ν) : List (TimedOp κ ν) → List (CacheEvent κ ν)
  | [] => []
  | timed :: ops =>
    ⟨session.setClock timed.1, timed.2⟩ ::
      events ((session.setClock timed.1).step timed.2).2 ops

theorem events_concat (session : CacheSession κ ν) (ops : List (TimedOp κ ν))
    (timed : TimedOp κ ν) :
    session.events (ops ++ [timed]) =
      session.events ops ++ [⟨(session.runTimed ops).setClock timed.1, timed.2⟩] := by
  induction ops generalizing session with
  | nil => rfl
  | cons first ops ih => exact congrArg (_ :: ·) (ih _)

/-! ### Where entries come from -/

variable {session : CacheSession κ ν} {key : κ} {entry : Entry ν}

/-- An entry that is found after an operation was stored by it and is unused, or it was found by it
and has one use more, or it was there before. What is stored or found is touched last. -/
theorem found_after (hdistinct : session.swept.cache.Distinct) (op : CacheOp κ ν)
    (hafter : (session.step op).2.swept.cache.find? key = some entry) :
    let event : CacheEvent κ ν := ⟨session, op⟩
    (event.stores key = true ∧ entry.uses = 0 ∧
      entry.touched = session.swept.cache.touches + 1) ∨
    (event.stores key = false ∧ event.finds key = true ∧
      ∃ old, session.swept.cache.find? key = some old ∧ entry.uses = old.uses + 1 ∧
        entry.touched = session.swept.cache.touches + 1) ∨
    (event.stores key = false ∧ event.finds key = false ∧
      session.swept.cache.find? key = some entry) := by
  intro event
  rw [cache_step] at hafter
  cases op with
  | set other value ttl =>
    simp only [cacheAfter, Cache.find?_set] at hafter
    by_cases hother : key = other
    · rw [if_pos hother, Option.some.injEq] at hafter
      subst hother hafter
      exact .inl ⟨decide_eq_true rfl, rfl, rfl⟩
    · rw [if_neg hother] at hafter
      split at hafter
      · cases hafter
      · exact .inr (.inr ⟨decide_eq_false (Ne.symm hother), rfl, hafter⟩)
  | get other =>
    simp only [cacheAfter, Cache.find?_get] at hafter
    by_cases hother : key = other
    · subst hother
      rw [if_pos rfl, Option.map_eq_some_iff] at hafter
      obtain ⟨old, hold, rfl⟩ := hafter
      obtain ⟨hfound, hlive⟩ := Option.filter_eq_some_iff.mp hold
      refine .inr (.inl ⟨rfl, ?_, old, hfound, rfl, rfl⟩)
      -- The entry is live, so the lookup finds its value.
      have hexpired : old.isExpired session.now = false := by simpa using hlive
      simp [event, CacheEvent.finds, step, CacheAnswer.isFound, Cache.get, hfound, hexpired]
    · rw [if_neg hother] at hafter
      refine .inr (.inr ⟨rfl, ?_, hafter⟩)
      simp [event, CacheEvent.finds, Ne.symm hother]
  | has other =>
    simp only [cacheAfter, Cache.find?_has] at hafter
    split at hafter
    · next hother =>
      subst hother
      exact .inr (.inr ⟨rfl, rfl, (Option.filter_eq_some_iff.mp hafter).1⟩)
    · exact .inr (.inr ⟨rfl, rfl, hafter⟩)
  | delete other =>
    simp only [cacheAfter, Cache.find?_delete] at hafter
    split at hafter
    · cases hafter
    · exact .inr (.inr ⟨rfl, rfl, hafter⟩)
  | clear => cases hafter
  | cleanup =>
    simp only [cacheAfter, Cache.find?_sweep hdistinct] at hafter
    exact .inr (.inr ⟨rfl, rfl, (Option.filter_eq_some_iff.mp hafter).1⟩)
  | invalidate matched =>
    simp only [cacheAfter, Cache.find?_invalidate hdistinct] at hafter
    split at hafter
    · cases hafter
    · exact .inr (.inr ⟨rfl, rfl, hafter⟩)
  | sleep duration =>
    exact .inr (.inr ⟨rfl, rfl, Cache.find?_of_find?_sweepAll hdistinct hafter⟩)
  | size | statistics | capacity | defaultTtl | startSweeper | startSweeperEvery | stopSweeper
  | isSweeping => exact .inr (.inr ⟨rfl, rfl, hafter⟩)

/-- The numbers of the entries are what a history says: how often they were found, and which of them
was touched first. -/
structure Tracked (events : List (CacheEvent κ ν)) (cache : Cache κ ν) : Prop where
  uses : ∀ key entry, cache.find? key = some entry → entry.uses = CacheEvent.uses key events
  order : ∀ key other entry another, cache.find? key = some entry →
    cache.find? other = some another →
      (entry.touched < another.touched ↔
        CacheEvent.lastTouch key events < CacheEvent.lastTouch other events)

/-- The numbers of the entries go on being what the history says. -/
theorem Tracked.step {events : List (CacheEvent κ ν)} {operations : Nat}
    (htracked : Tracked events session.swept.cache)
    (hbounded : session.swept.cache.Bounded operations) (op : CacheOp κ ν) :
    Tracked (events ++ [⟨session, op⟩]) (session.step op).2.swept.cache := by
  -- An entry is the one that the operation touches, or it was touched before and stays as it is.
  have hcases : ∀ key entry, (session.step op).2.swept.cache.find? key = some entry →
      let event : CacheEvent κ ν := ⟨session, op⟩
      (event.touches key = true ∧ entry.touched = session.swept.cache.touches + 1) ∨
      (event.touches key = false ∧ entry.touched ≤ session.swept.cache.touches ∧
        session.swept.cache.find? key = some entry) := by
    intro key entry hentry
    rcases found_after hbounded.distinct op hentry with
      ⟨hstores, -, htouched⟩ | ⟨-, hfinds, -, -, -, htouched⟩ | ⟨hstores, hfinds, hbefore⟩
    · exact .inl ⟨by simp [CacheEvent.touches, hstores], htouched⟩
    · exact .inl ⟨by simp [CacheEvent.touches, hfinds], htouched⟩
    · have hmem := Cache.mem_of_find? hbefore
      exact .inr ⟨by simp [CacheEvent.touches, hstores, hfinds],
        (hbounded.touched_bounds _ hmem).2, hbefore⟩
  refine ⟨fun key entry hentry => ?_, fun key other entry another hentry hanother => ?_⟩
  · rw [CacheEvent.uses_concat]
    rcases found_after hbounded.distinct op hentry with
      ⟨hstores, huses, -⟩ | ⟨hstores, hfinds, old, hold, huses, -⟩ | ⟨hstores, hfinds, hbefore⟩
    · simp [hstores, huses]
    · simp [hstores, hfinds, huses, htracked.uses key old hold]
    · simp [hstores, hfinds, htracked.uses key entry hbefore]
  · have hle := CacheEvent.lastTouch_le key events
    have hotherle := CacheEvent.lastTouch_le other events
    rw [CacheEvent.lastTouch_concat, CacheEvent.lastTouch_concat]
    rcases hcases key entry hentry with ⟨hkey, htouched⟩ | ⟨hkey, htouched, hbefore⟩
    -- What is touched now comes after whatever was touched before, by number and by history.
    · rcases hcases other another hanother with ⟨hother, hlater⟩ | ⟨hother, hlater, -⟩
      · rw [if_pos hkey, if_pos hother]
        omega
      · rw [if_pos hkey, if_neg (by simp [hother])]
        omega
    · rcases hcases other another hanother with ⟨hother, hlater⟩ | ⟨hother, hlater, hearlier⟩
      · rw [if_neg (by simp [hkey]), if_pos hother]
        omega
      · rw [if_neg (by simp [hkey]), if_neg (by simp [hother])]
        exact htracked.order key other entry another hbefore hearlier

theorem tracked_runTimed (options : CacheOptions) (hosted : Bool) (ops : List (TimedOp κ ν)) :
    Tracked ((start options hosted).events ops)
      ((start options hosted).runTimed ops).swept.cache := by
  induction ops using List.reverseRecOn with
  | nil => exact ⟨nofun, nofun⟩
  | append_singleton ops timed ih =>
    rw [runTimed_concat, events_concat]
    -- Setting the clock changes neither the entries nor the bounds.
    let session := ((start options hosted).runTimed ops).setClock timed.1
    have hbounded : session.swept.cache.Bounded ops.length := bounded_runTimed options hosted ops
    have htracked : Tracked ((start options hosted).events ops) session.swept.cache := ih
    exact htracked.step hbounded timed.2

end CacheSession

/-! ### The entry that is given up first -/

/-- What is given up first: what has fewer uses, and of what has as many the one touched first. -/
theorem Entry.before_iff {first other : Entry ν} :
    first.before other = true ↔
      first.uses < other.uses ∨ first.uses = other.uses ∧ first.touched < other.touched := by
  simp [Entry.before]

namespace Cache

section Victim

variable {entries others : List (κ × Entry ν)} {stored : κ × Entry ν}

omit [DecidableEq κ]

/-- Nothing would have to be given up before the entry that is given up. -/
theorem not_before_of_victim? (hvictim : victim? entries = some stored) :
    stored ∈ entries ∧ ∀ other ∈ entries, other.2.before stored.2 = false := by
  induction entries generalizing stored with
  | nil => cases hvictim
  | cons first rest ih =>
    have hirrefl : ∀ entry : Entry ν, entry.before entry = false := by simp [Entry.before]
    rw [victim?] at hvictim
    cases hrest : victim? rest with
    | none =>
      -- A list without such an entry is empty.
      have hnil : rest = [] := by
        by_contra hne
        obtain ⟨other, -, hother⟩ := exists_victim? hne
        rw [hrest] at hother
        cases hother
      rw [hrest, Option.some.injEq] at hvictim
      subst hnil hvictim
      simp [hirrefl]
    | some least =>
      obtain ⟨hleast, hleastFirst⟩ := ih hrest
      rw [hrest] at hvictim
      dsimp only at hvictim
      split at hvictim
      · next hbefore =>
        rw [Option.some.injEq] at hvictim
        subst hvictim
        refine ⟨List.mem_cons_of_mem _ hleast, fun other hother => ?_⟩
        rcases List.mem_cons.mp hother with rfl | hother
        · rw [Entry.before_iff] at hbefore
          rw [Bool.eq_false_iff, ne_eq, Entry.before_iff]
          omega
        · exact hleastFirst other hother
      · next hbefore =>
        rw [Option.some.injEq] at hvictim
        subst hvictim
        refine ⟨List.mem_cons_self, fun other hother => ?_⟩
        rcases List.mem_cons.mp hother with rfl | hother
        · exact hirrefl _
        · have hother := hleastFirst other hother
          rw [Bool.eq_false_iff, ne_eq, Entry.before_iff] at hother
          rw [Entry.before_iff] at hbefore
          rw [Bool.eq_false_iff, ne_eq, Entry.before_iff]
          omega

/-- There are no ties: the entry that is given up comes before every other one. -/
theorem before_of_victim? (htouched : (entries.map fun stored => stored.2.touched).Nodup)
    (hvictim : victim? entries = some stored) {other : κ × Entry ν} (hother : other ∈ entries)
    (hne : other ≠ stored) : stored.2.before other.2 = true := by
  obtain ⟨hstored, hfirst⟩ := not_before_of_victim? hvictim
  -- Two entries may have as many uses, but never one number.
  have hnumbers : other.2.touched ≠ stored.2.touched := fun hsame =>
    hne (List.inj_on_of_nodup_map htouched hother hstored hsame)
  have hnot := hfirst other hother
  rw [Bool.eq_false_iff, ne_eq, Entry.before_iff] at hnot
  rw [Entry.before_iff]
  omega

/-- The order in which the entries are kept does not matter. -/
theorem victim?_of_perm (htouched : (entries.map fun stored => stored.2.touched).Nodup)
    (hperm : others.Perm entries) : victim? others = victim? entries := by
  by_cases hnil : entries = []
  · rw [hnil] at hperm ⊢
    rw [hperm.eq_nil]
  · have hothers : others ≠ [] := fun hempty => hnil (hempty ▸ hperm).symm.eq_nil
    obtain ⟨stored, hstored, hvictim⟩ := exists_victim? hnil
    obtain ⟨another, hanother, hothersVictim⟩ := exists_victim? hothers
    rw [hvictim, hothersVictim, Option.some.injEq]
    by_contra hne
    -- Of two different ones each would come before the other.
    have hbefore := before_of_victim? htouched hvictim (hperm.mem_iff.mp hanother) hne
    have hnot := (not_before_of_victim? hothersVictim).2 stored (hperm.mem_iff.mpr hstored)
    rw [hbefore] at hnot
    cases hnot

end Victim

variable {cache : Cache κ ν} {operations : Nat}

/-- A key finds what is stored under it, and nothing else. -/
theorem find?_eq_some_iff (hdistinct : cache.Distinct) {key : κ} {entry : Entry ν} :
    cache.find? key = some entry ↔ (key, entry) ∈ cache.entries :=
  Pairs.lookup_eq_some_iff_mem hdistinct

/-- In whatever order the entries are kept, the keys find the same. -/
theorem find?_of_perm (hdistinct : cache.Distinct) {others : List (κ × Entry ν)}
    (hperm : others.Perm cache.entries) (key : κ) :
    ({ cache with entries := others } : Cache κ ν).find? key = cache.find? key := by
  have hothers : ({ cache with entries := others } : Cache κ ν).Distinct :=
    (hperm.map Prod.fst).nodup_iff.mpr hdistinct
  refine Option.ext fun entry => ?_
  -- What is found is what is a member, and the order does not matter for that.
  rw [find?_eq_some_iff hdistinct, find?_eq_some_iff hothers]
  exact hperm.mem_iff

/-- In whatever order the entries are kept, the same is found after something was stored. -/
theorem find?_set_of_perm (hbounded : cache.Bounded operations) {others : List (κ × Entry ν)}
    (hperm : others.Perm cache.entries) (now : Nat) (key : κ) (value : ν) (ttl : Option Nat)
    (other : κ) :
    (({ cache with entries := others } : Cache κ ν).set now key value ttl).find? other =
      (cache.set now key value ttl).find? other := by
  have hfind := find?_of_perm hbounded.distinct hperm
  have hfull : ({ cache with entries := others } : Cache κ ν).isFullFor key =
      cache.isFullFor key := by
    rw [isFullFor, isFullFor, hfind, size, size, hperm.length_eq]
  have hevicted : ({ cache with entries := others } : Cache κ ν).evicted? key =
      cache.evicted? key := by
    rw [evicted?, evicted?, hfull, victim?_of_perm hbounded.touched_distinct hperm]
  rw [find?_set, find?_set, hevicted, hfind]

/-- Something has to be given up for a key if it is not stored and all places are taken. -/
theorem isFullFor_iff (hbounded : cache.Bounded operations) {key : κ} :
    cache.isFullFor key = true ↔ cache.find? key = none ∧ cache.size = cache.options.capacity := by
  have hsize := hbounded.size_le
  rw [isFullFor, Bool.and_eq_true, Option.isNone_iff_eq_none, decide_eq_true_eq]
  exact and_congr_right fun _ => ⟨fun hfull => hsize.antisymm hfull, fun hfull => hfull.ge⟩

/-- What is counted as given up when something is stored. -/
theorem evictions_set (now : Nat) (key : κ) (value : ν) (ttl : Option Nat) (cache : Cache κ ν) :
    (cache.set now key value ttl).evictions =
      cache.evictions + if (cache.evicted? key).isSome then 1 else 0 := by
  unfold set evicted?
  split
  · rw [evict]
    cases victim? cache.entries <;> rfl
  · rfl

end Cache

namespace CacheSession

/-- What is given up for something new: something else, of what is stored the one that was found
least often, and of those the one stored or found longest ago. Everything else stays as it is. -/
structure GivesUp (events : List (CacheEvent κ ν)) (cache after : Cache κ ν) (key victim : κ) :
    Prop where
  stored : (cache.find? victim).isSome
  other : victim ≠ key
  gone : after.find? victim = none
  first : ∀ other, (cache.find? other).isSome → other ≠ victim →
    CacheEvent.uses victim events < CacheEvent.uses other events ∨
      CacheEvent.uses victim events = CacheEvent.uses other events ∧
        CacheEvent.lastTouch victim events < CacheEvent.lastTouch other events
  kept : ∀ other, other ≠ key → other ≠ victim → after.find? other = cache.find? other

/-- If there is no place, something is given up, and its key is the only one of which this is
true. -/
theorem existsUnique_givesUp {events : List (CacheEvent κ ν)} {cache : Cache κ ν}
    {operations : Nat} (htracked : Tracked events cache) (hbounded : cache.Bounded operations)
    {key : κ} (hfull : cache.isFullFor key = true) (now : Nat) (value : ν) (ttl : Option Nat) :
    (cache.evicted? key).isSome ∧
      ∃! victim, GivesUp events cache (cache.set now key value ttl) key victim := by
  obtain ⟨hnew, -⟩ := (Cache.isFullFor_iff hbounded).mp hfull
  obtain ⟨⟨victim, entry⟩, hstored, hvictim⟩ :=
    Cache.exists_victim? (hbounded.ne_nil_of_isFullFor hfull)
  have hfound : cache.find? victim = some entry :=
    (Cache.find?_eq_some_iff hbounded.distinct).mpr hstored
  have hevicted : cache.evicted? key = some victim := by
    rw [Cache.evicted?, if_pos hfull, hvictim]
    rfl
  have hother : victim ≠ key := by
    rintro rfl
    rw [hnew] at hfound
    cases hfound
  refine ⟨by rw [hevicted]; rfl, victim, ⟨by rw [hfound]; rfl, hother, ?_, ?_, ?_⟩, ?_⟩
  · rw [Cache.find?_set, if_neg hother, if_pos hevicted]
  · intro other hisSome hdifferent
    obtain ⟨another, hanother⟩ := Option.isSome_iff_exists.mp hisSome
    have hbefore := Cache.before_of_victim? hbounded.touched_distinct hvictim
      (Cache.mem_of_find? hanother) fun hsame => hdifferent (congrArg Prod.fst hsame)
    rw [Entry.before_iff] at hbefore
    -- The numbers of both entries stand for what the history says.
    rw [← htracked.uses victim entry hfound, ← htracked.uses other another hanother,
      ← htracked.order victim other entry another hfound hanother]
    exact hbefore
  · intro other hkey hdifferent
    rw [Cache.find?_set, if_neg hkey, if_neg]
    rw [hevicted, Option.some.injEq]
    exact hdifferent.symm
  · -- Any other key that is stored keeps its entry.
    intro another hanother
    by_contra hdifferent
    have hkept : (cache.set now key value ttl).find? another = cache.find? another := by
      rw [Cache.find?_set, if_neg hanother.other, if_neg]
      rw [hevicted, Option.some.injEq]
      exact Ne.symm hdifferent
    have hisSome := hanother.stored
    rw [← hkept, hanother.gone] at hisSome
    cases hisSome

/-- What is stored in a cache after any operations is found there, and is unused. If its key was not
stored before and all places were taken, one entry is given up for it: the one that was found least
often since it was stored, of several such entries the one stored or found longest ago. Otherwise
nothing is given up, and all other entries stay. In whatever order the cache keeps its entries, it
is the same one. -/
theorem set_gives_up_least_used (options : CacheOptions) (hosted : Bool)
    (ops : List (TimedOp κ ν)) (now : Nat) (key : κ) (value : ν) (ttl : Option Nat) :
    let session := ((start options hosted).runTimed ops).setClock now
    let events := (start options hosted).events ops
    let cache := session.swept.cache
    let after := (session.step (.set key value ttl)).2.swept.cache
    let full := cache.find? key = none ∧ cache.size = max options.capacity 1
    (∃ entry, after.find? key = some entry ∧ entry.value = value ∧ entry.uses = 0) ∧
      (full → after.evictions = cache.evictions + 1 ∧
        ∃! victim, GivesUp events cache after key victim) ∧
      (¬full → after.evictions = cache.evictions ∧
        ∀ other, other ≠ key → after.find? other = cache.find? other) ∧
      ∀ others : List (κ × Entry ν), others.Perm cache.entries → ∀ other,
        (({ cache with entries := others } : Cache κ ν).set now key value ttl).find? other =
          after.find? other := by
  intro session events cache after full
  have hbounded : cache.Bounded ops.length := bounded_runTimed options hosted ops
  have htracked : Tracked events cache := tracked_runTimed options hosted ops
  have hcapacity : cache.options.capacity = max options.capacity 1 :=
    congrArg CacheOptions.capacity (options_runTimed options hosted ops)
  have hafter : after = cache.set now key value ttl := rfl
  have hfull : full ↔ cache.isFullFor key = true := by
    rw [Cache.isFullFor_iff hbounded, hcapacity]
  refine ⟨?_, fun hnoPlace => ?_, fun hplace => ?_, fun others hperm other => ?_⟩
  · have hnew := Cache.find?_set now key value ttl cache key
    rw [if_pos rfl] at hnew
    exact ⟨_, hnew, rfl, rfl⟩
  · obtain ⟨hevicted, hunique⟩ :=
      existsUnique_givesUp htracked hbounded (hfull.mp hnoPlace) now value ttl
    refine ⟨?_, hunique⟩
    rw [hafter, Cache.evictions_set, if_pos hevicted]
  · -- There is a place, so nobody has to leave.
    have hnone : cache.evicted? key = none := if_neg fun hno => hplace (hfull.mpr hno)
    refine ⟨?_, fun other hother => ?_⟩
    · rw [hafter, Cache.evictions_set, hnone]
      rfl
    · rw [hafter, Cache.find?_set, if_neg hother, hnone]
      rfl
  · exact Cache.find?_set_of_perm hbounded hperm now key value ttl other

-- The older entry was found once, so the newer one makes room.
example :
    let ops : List (TimedOp Nat String) :=
      [(0, .set 1 "a" none), (1, .get 1), (2, .set 2 "b" none), (3, .set 3 "c" none)]
    let cache := ((start ⟨2, none, none⟩ false).runTimed ops).swept.cache
    cache.entries.map Prod.fst = [3, 1] ∧ cache.evictions = 1 := by decide

end CacheSession

end TemplateCatalog
