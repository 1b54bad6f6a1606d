import TemplateCatalog.Proofs.Cache.Eviction

/-!
# Which live entries are given up

The capacity of a cache bounds the entries that are stored, and an expired entry is stored until it
is looked up or swept away. So it may happen that a live entry has to make room while an expired one
stays: what is given up is what comes first in the order of giving up, whether or not it has
expired. An expired entry protects the live ones that come after it, and no others. Directly after
a sweep only live entries are stored, and then a live entry is given up only if all places are taken
by live ones.

Main statements:

* `Cache.evicted?_eq_some_iff`: what has to come together for an entry to be given up.
* `CacheSession.set_removes_live_iff`: when storing something removes a live entry.
* `CacheSession.set_removes_live_beside_expired`: a live entry may make room while an expired one
  stays.
-/

namespace TemplateCatalog

variable {κ ν : Type} [DecidableEq κ]

omit [DecidableEq κ] in
/-- Of two entries at most one comes before the other. -/
theorem Entry.before_asymm {first other : Entry ν} (hbefore : first.before other = true) :
    other.before first = false := by
  rw [before_iff] at hbefore
  rw [Bool.eq_false_iff, ne_eq, before_iff]
  omega

namespace Cache

variable {cache : Cache κ ν} {operations : Nat} {key other : κ} {entry : Entry ν}

/-- An entry is given up for a key just if the key is new, all places are taken, and the entry comes
before every other one that is stored. -/
theorem evicted?_eq_some_iff (key : κ) (hbounded : cache.Bounded operations)
    (hfound : cache.find? other = some entry) :
    cache.evicted? key = some other ↔
      cache.find? key = none ∧ cache.size = cache.options.capacity ∧
        ∀ another stored, another ≠ other → cache.find? another = some stored →
          entry.before stored = true := by
  rw [evicted?, ← and_assoc, ← isFullFor_iff hbounded]
  constructor
  · intro hevicted
    split at hevicted
    · next hfull =>
      obtain ⟨⟨name, least⟩, hvictim, hname⟩ := Option.map_eq_some_iff.mp hevicted
      obtain rfl : name = other := hname
      refine ⟨hfull, fun another stored hne hanother => ?_⟩
      -- The entry that is given up is the one that the key finds.
      have hmem := (not_before_of_victim? hvictim).1
      have hleast : cache.find? name = some least :=
        (find?_eq_some_iff hbounded.distinct).mpr hmem
      rw [hfound, Option.some.injEq] at hleast
      subst hleast
      exact before_of_victim? hbounded.touched_distinct hvictim (mem_of_find? hanother)
        fun hsame => hne (congrArg Prod.fst hsame)
    · cases hevicted
  · rintro ⟨hfull, hfirst⟩
    have hne : cache.entries ≠ [] := List.ne_nil_of_mem (mem_of_find? hfound)
    obtain ⟨⟨name, least⟩, hmem, hvictim⟩ := exists_victim? hne
    rw [if_pos hfull, hvictim, Option.map_some, Option.some.injEq]
    by_contra hdifferent
    -- Another entry would have to make room before this one, which comes before it.
    have hbefore := hfirst name least hdifferent ((find?_eq_some_iff hbounded.distinct).mpr hmem)
    have hnot := (not_before_of_victim? hvictim).2 (other, entry) (mem_of_find? hfound)
    rw [hbefore] at hnot
    cases hnot

/-- What is stored under another key stays as it is unless it is given up. -/
theorem find?_set_of_ne (now : Nat) (value : ν) (ttl : Option Nat) (hne : other ≠ key)
    (hfound : cache.find? other = some entry) :
    (cache.set now key value ttl).find? other =
      if cache.evicted? key = some other then none else some entry := by
  rw [find?_set, if_neg hne, hfound]

/-- If something is given up directly after a sweep, all places were taken by live entries. -/
theorem length_live_of_evicted? (hbounded : cache.Bounded operations) {now : Nat}
    (hfound : (cache.sweep now).2.find? other = some entry)
    (hevicted : (cache.sweep now).2.evicted? key = some other) :
    (cache.live now).length = cache.options.capacity :=
  ((evicted?_eq_some_iff key (hbounded.sweep now) hfound).mp hevicted).2.1

end Cache

namespace CacheSession

/-- Storing something removes a live entry under another key just if the key is new, all places are
taken, by expired entries as well as by live ones, and the entry comes before all others in the
order of giving up. So an expired entry protects the live ones that come after it. If the cache was
swept just before, the live entry is removed only if all places were taken by live entries. -/
theorem set_removes_live_iff (options : CacheOptions) (hosted : Bool) (ops : List (TimedOp κ ν))
    (now : Nat) (key : κ) (value : ν) (ttl : Option Nat) :
    let session := ((start options hosted).runTimed ops).setClock now
    let cache := session.swept.cache
    let after := (session.step (.set key value ttl)).2.swept.cache
    let sweptAfter := ((session.step .cleanup).2.step (.set key value ttl)).2.swept.cache
    ∀ other entry, other ≠ key → cache.find? other = some entry → entry.isExpired now = false →
      (after.find? other = none ↔
        cache.find? key = none ∧ cache.size = max options.capacity 1 ∧
          ∀ another stored, another ≠ other → cache.find? another = some stored →
            entry.before stored = true) ∧
      (∀ dead stored, cache.find? dead = some stored → stored.isExpired now = true →
        stored.before entry = true → after.find? other = some entry) ∧
      (sweptAfter.find? other = none → (cache.live now).length = max options.capacity 1) := by
  intro session cache after sweptAfter other entry hne hfound hlive
  have hbounded : cache.Bounded ops.length := bounded_runTimed options hosted ops
  have hcapacity : cache.options.capacity = max options.capacity 1 :=
    congrArg CacheOptions.capacity (options_runTimed options hosted ops)
  have hevicted := Cache.evicted?_eq_some_iff key hbounded hfound
  have hafter : after.find? other = if cache.evicted? key = some other then none else some entry :=
    Cache.find?_set_of_ne now value ttl hne hfound
  have hswept : (cache.sweep now).2.find? other = some entry := by
    rw [Cache.find?_sweep hbounded.distinct, hfound, Option.filter_some, hlive]
    rfl
  have hsweptAfter : sweptAfter.find? other =
      if (cache.sweep now).2.evicted? key = some other then none else some entry :=
    Cache.find?_set_of_ne now value ttl hne hswept
  refine ⟨?_, fun dead stored hdead hexpired hbefore => ?_, fun hgone => ?_⟩
  · rw [← hcapacity, ← hevicted, hafter]
    split
    · next hother => exact iff_of_true rfl hother
    · next hother => exact iff_of_false nofun hother
  · rw [hafter, if_neg]
    intro hother
    -- The expired entry is another one, so it would have to come after the live one.
    have hdifferent : dead ≠ other := by
      rintro rfl
      rw [hfound, Option.some.injEq] at hdead
      rw [hdead, hexpired] at hlive
      cases hlive
    have hfirst := (hevicted.mp hother).2.2 dead stored hdifferent hdead
    rw [Entry.before_asymm hbefore] at hfirst
    cases hfirst
  · rw [← hcapacity]
    rw [hsweptAfter] at hgone
    split at hgone
    · next hother => exact Cache.length_live_of_evicted? hbounded hswept hother
    · cases hgone

/-- An expired entry that was stored first makes room, and the live one stays. -/
theorem set_keeps_live_after_expired :
    let ops : List (TimedOp Nat String) := [(0, .set 1 "a" (some 0)), (0, .set 2 "b" none)]
    let session := ((start ⟨2, none, none⟩ false).runTimed ops).setClock 0
    let cache := session.swept.cache
    let after := (session.step (.set 3 "c" none)).2.swept.cache
    let entry : Entry String := ⟨"b", none, 0, 2⟩
    cache.find? 2 = some entry ∧ entry.isExpired 0 = false ∧
      cache.find? 1 = some ⟨"a", some 0, 0, 1⟩ ∧ after.find? 2 = some entry := by
  intro ops session cache after entry
  have hkept := (set_removes_live_iff ⟨2, none, none⟩ false ops 0 3 "c" none 2 entry
    (by decide) (by decide) (by decide)).2.1
  exact ⟨by decide, by decide, by decide,
    hkept 1 ⟨"a", some 0, 0, 1⟩ (by decide) (by decide) (by decide)⟩

/-- A live entry makes room for a new one while an expired one, stored later, stays: the one that is
given up is the one that comes first, whether or not it has expired. -/
theorem set_removes_live_beside_expired :
    let ops : List (TimedOp Nat String) := [(0, .set 1 "a" none), (0, .set 2 "b" (some 0))]
    let session := ((start ⟨2, none, none⟩ false).runTimed ops).setClock 0
    let cache := session.swept.cache
    let after := (session.step (.set 3 "c" none)).2.swept.cache
    (∃ stored, cache.find? 2 = some stored ∧ stored.isExpired 0 = true) ∧
      ∃ entry, cache.find? 1 = some entry ∧ entry.isExpired 0 = false ∧
        after.find? 1 = none ∧ (after.find? 2).isSome := by
  intro ops session cache after
  exact ⟨⟨⟨"b", some 0, 0, 2⟩, by decide⟩, ⟨"a", none, 0, 1⟩, by decide⟩

end CacheSession

end TemplateCatalog
