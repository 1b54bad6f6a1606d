import Mathlib.Data.List.Induction
import TemplateCatalog.Proofs.Cache.Lookup

/-!
# What a history leaves under a key

What a key finds in a cache is settled by the operations that were carried out, without a look at
the cache: it is the value of the latest operation that stored something under the key, as long as
it has not expired, was not removed and was not given up for another entry. When expired entries
are dropped, at a lookup, by a sweep or by storing anew, makes no difference to any answer.

The module introduces:

* `CacheOp.Stores`, `CacheOp.Removes`: what an operation means for a key;
* `CacheSession.run`, `CacheOp.elapsed`: a history of operations, and how long it takes;
* `CacheSession.Leaves`: a history leaves a value under a key.

Main statements:

* `CacheSession.record?_step_set`, `CacheSession.record?_step_of_gone`,
  `CacheSession.record?_step_of_spares`: what one operation does to the record of a key.
* `CacheSession.exists_lingers`: after any history the record of a key is what the history has left,
  or nothing if that has expired.
* `CacheSession.lookup_iff_leaves`: what lookups answer after any history.
-/

namespace TemplateCatalog

variable {κ ν : Type}

/-! ### Histories -/

namespace CacheOp

/-- The operation stores something under the key. -/
def Stores (key : κ) : CacheOp κ ν → Prop
  | .set other _ _ => other = key
  | _ => False

/-- The operation removes what is stored under the key. -/
def Removes (key : κ) : CacheOp κ ν → Prop
  | .delete other => other = key
  | .clear => True
  | .invalidate matched => matched key = true
  | _ => False

/-- How much time the operation lets pass. -/
def duration : CacheOp κ ν → Nat
  | .sleep duration => duration
  | _ => 0

/-- How much time the operations let pass. -/
def elapsed : List (CacheOp κ ν) → Nat
  | [] => 0
  | op :: ops => op.duration + elapsed ops

@[simp] theorem elapsed_concat (ops : List (CacheOp κ ν)) (op : CacheOp κ ν) :
    elapsed (ops ++ [op]) = elapsed ops + op.duration := by
  induction ops with
  | nil => exact Nat.add_comm op.duration 0
  | cons first ops ih => rw [List.cons_append, elapsed, elapsed, ih, Nat.add_assoc]

end CacheOp

namespace CacheSession

variable [DecidableEq κ]

/-- The session after some operations. -/
def run (session : CacheSession κ ν) (ops : List (CacheOp κ ν)) : CacheSession κ ν :=
  ops.foldl (fun session op => (session.step op).2) session

@[simp] theorem run_concat (session : CacheSession κ ν) (ops : List (CacheOp κ ν))
    (op : CacheOp κ ν) : session.run (ops ++ [op]) = ((session.run ops).step op).2 := by
  simp [run]

/-- The key whose entry is given up by an operation, to make room for a new one. -/
def evicted? (session : CacheSession κ ν) : CacheOp κ ν → Option κ
  | .set key _ _ => session.swept.cache.evicted? key
  | _ => none

/-- An operation in a session leaves alone what is stored under a key. -/
structure Spares (session : CacheSession κ ν) (op : CacheOp κ ν) (key : κ) : Prop where
  /-- It stores nothing else under the key. -/
  not_stores : ¬ op.Stores key
  /-- It does not remove the entry. -/
  not_removes : ¬ op.Removes key
  /-- It does not give up the entry. -/
  not_evicts : session.evicted? op ≠ some key

/-- The history of a session consists of some operations, one that stores a value under a key, and
others that leave the value alone. -/
structure Leaves (session : CacheSession κ ν) (ops : List (CacheOp κ ν)) (key : κ) (value : ν)
    (ttl : Option Nat) (before after : List (CacheOp κ ν)) : Prop where
  /-- The value is stored between the others. -/
  split : ops = before ++ .set key value ttl :: after
  /-- It is the latest one that is stored under the key. -/
  latest : ∀ op ∈ after, ¬ op.Stores key
  /-- It is not removed. -/
  kept : ∀ op ∈ after, ¬ op.Removes key
  /-- It is not given up for another one. -/
  not_evicted : ∀ earlier op later, after = earlier ++ op :: later →
    (session.run (before ++ .set key value ttl :: earlier)).evicted? op ≠ some key

/-! ### Records -/

/-- What is stored under a key: the value and its deadline. -/
def record? (session : CacheSession κ ν) (key : κ) : Option (ν × Option Nat) :=
  (session.swept.cache.find? key).map fun entry => (entry.value, entry.deadline)

/-- A record is live before its deadline, and always if it has none. -/
def IsLive (now : Nat) (record : ν × Option Nat) : Prop :=
  ∀ deadline, record.2 = some deadline → now < deadline

/-- A record stays as it was, or it is dropped without being taken away, and had then expired. -/
def Lingers (now : Nat) (before after : Option (ν × Option Nat)) : Prop :=
  after = before ∨ after = none ∧ ∀ record, before = some record → ¬ IsLive now record

omit [DecidableEq κ] in
theorem isLive_iff (now : Nat) (entry : Entry ν) :
    IsLive now (entry.value, entry.deadline) ↔ entry.isExpired now = false := by
  cases hdeadline : entry.deadline <;> simp [IsLive, Entry.isExpired, hdeadline]

omit [DecidableEq κ] in
/-- What has expired stays expired. -/
theorem IsLive.of_le {now later : Nat} {record : ν × Option Nat} (hlive : IsLive later record)
    (hle : now ≤ later) : IsLive now record :=
  fun deadline hdeadline => Nat.lt_of_le_of_lt hle (hlive deadline hdeadline)

theorem Lingers.trans {now later : Nat} {before between after : Option (ν × Option Nat)}
    (hfirst : Lingers now before between) (hle : now ≤ later)
    (hsecond : Lingers later between after) : Lingers later before after := by
  rcases hsecond with rfl | ⟨rfl, hexpired⟩
  · rcases hfirst with rfl | ⟨rfl, hexpired⟩
    · exact .inl rfl
    · exact .inr ⟨rfl, fun record hrecord hlive => hexpired record hrecord (hlive.of_le hle)⟩
  · rcases hfirst with rfl | ⟨rfl, hearlier⟩
    · exact .inr ⟨rfl, hexpired⟩
    · exact .inr ⟨rfl, fun record hrecord hlive => hearlier record hrecord (hlive.of_le hle)⟩

/-- Dropping what has expired by now lets the rest linger. -/
theorem lingers_filter {now later : Nat} (hle : now ≤ later) (found : Option (Entry ν)) :
    Lingers later (found.map fun entry => (entry.value, entry.deadline))
      ((found.filter (!·.isExpired now)).map fun entry => (entry.value, entry.deadline)) := by
  cases found with
  | none => exact .inl rfl
  | some entry =>
    cases hexpired : entry.isExpired now with
    | false => exact .inl (by simp [Option.filter_some, hexpired])
    | true =>
      refine .inr ⟨by simp [Option.filter_some, hexpired], ?_⟩
      rintro record hrecord hlive
      cases hrecord
      have hnow := (isLive_iff now entry).mp (hlive.of_le hle)
      rw [hexpired] at hnow
      cases hnow

/-! ### One operation -/

variable {session : CacheSession κ ν} {key : κ}

/-- The clock goes on by what an operation lets pass. -/
theorem now_step (session : CacheSession κ ν) (op : CacheOp κ ν) :
    (session.step op).2.now = session.now + op.duration := by
  cases op <;> rfl

/-- What an operation stores is found with its own time to live, or else with the default one. -/
theorem record?_step_set (session : CacheSession κ ν) (key : κ) (value : ν) (ttl : Option Nat) :
    (session.step (.set key value ttl)).2.record? key =
      some (value, deadline? session.now (ttl <|> session.swept.cache.options.defaultTtl)) := by
  simp [record?, step, withCache, Cache.find?_set]

/-- What an operation removes or gives up is not found any more. -/
theorem record?_step_of_gone (hdistinct : session.swept.cache.Distinct) {op : CacheOp κ ν}
    (hstores : ¬ op.Stores key) (hgone : op.Removes key ∨ session.evicted? op = some key) :
    (session.step op).2.record? key = none := by
  cases op with
  | set other value ttl =>
    have hevicted : session.swept.cache.evicted? other = some key := hgone.resolve_left id
    have hne : key ≠ other := fun hsame => hstores hsame.symm
    simp [record?, step, withCache, Cache.find?_set, hne, hevicted]
  | delete other =>
    have hsame : other = key := hgone.resolve_right (by simp [evicted?])
    simp [record?, step, withCache, Cache.find?_delete, hsame]
  | clear => rfl
  | invalidate matched =>
    have hmatched : matched key = true := hgone.resolve_right (by simp [evicted?])
    simp [record?, step, withCache, Cache.find?_invalidate hdistinct, hmatched]
  | get | has | cleanup | size | statistics | capacity | defaultTtl | startSweeper
  | startSweeperEvery | stopSweeper | isSweeping | sleep =>
    simp [CacheOp.Removes, evicted?] at hgone

/-- The passage of time drops nothing but what has expired. -/
theorem lingers_pass (hdistinct : session.swept.cache.Distinct) (later : Nat) :
    Lingers later (session.record? key)
      (((session.swept.pass later).cache.find? key).map fun entry =>
        (entry.value, entry.deadline)) := by
  unfold SweptCache.pass
  split
  · exact .inl rfl
  · split
    · exact .inl rfl
    · -- The last sweep that fell due was not in the future.
      rw [Cache.find?_sweep hdistinct]
      exact lingers_filter (Nat.sub_le _ _) _

/-- What an operation leaves alone is found as before unless it has expired. -/
theorem record?_step_of_spares (hdistinct : session.swept.cache.Distinct) {op : CacheOp κ ν}
    (hspares : session.Spares op key) :
    Lingers (session.step op).2.now (session.record? key) ((session.step op).2.record? key) := by
  obtain ⟨hstores, hremoves, hevicts⟩ := hspares
  cases op with
  | set other value ttl =>
    have hne : key ≠ other := fun hsame => hstores hsame.symm
    have hkept : session.swept.cache.evicted? other ≠ some key := hevicts
    exact .inl (by simp [record?, step, withCache, Cache.find?_set, hne, hkept])
  | get other =>
    by_cases hother : key = other
    · -- A lookup of the key itself drops what has expired, and nothing else.
      subst hother
      have hfilter := lingers_filter (Nat.le_refl session.now) (session.swept.cache.find? key)
      simpa [record?, step, withCache, Cache.find?_get, Function.comp_def] using hfilter
    · exact .inl (by simp [record?, step, withCache, Cache.find?_get, hother])
  | has other =>
    by_cases hother : key = other
    · subst hother
      have hfilter := lingers_filter (Nat.le_refl session.now) (session.swept.cache.find? key)
      simpa [record?, step, withCache, Cache.find?_has] using hfilter
    · exact .inl (by simp [record?, step, withCache, Cache.find?_has, hother])
  | delete other =>
    have hne : key ≠ other := fun hsame => hremoves hsame.symm
    exact .inl (by simp [record?, step, withCache, Cache.find?_delete, hne])
  | clear => exact absurd trivial hremoves
  | cleanup =>
    have hfilter := lingers_filter (Nat.le_refl session.now) (session.swept.cache.find? key)
    simpa [record?, step, withCache, Cache.find?_sweep hdistinct] using hfilter
  | invalidate matched =>
    have hmatched : ¬ matched key = true := hremoves
    exact .inl (by simp [record?, step, withCache, Cache.find?_invalidate hdistinct, hmatched])
  | sleep duration => exact lingers_pass hdistinct _
  | size | statistics | capacity | defaultTtl | startSweeper | startSweeperEvery | stopSweeper
  | isSweeping =>
    refine .inl ?_
    rw [record?, cache_step]
    rfl

/-- No operation changes what the cache was built with. -/
theorem options_step (session : CacheSession κ ν) (op : CacheOp κ ν) :
    (session.step op).2.swept.cache.options = session.swept.cache.options := by
  rw [cache_step]
  cases op with
  | set other value ttl =>
    simp only [cacheAfter, Cache.set, Cache.evict]
    split
    · split <;> rfl
    · rfl
  | get other =>
    simp only [cacheAfter, Cache.get, Cache.expire]
    split
    · rfl
    · split <;> rfl
  | has other =>
    simp only [cacheAfter, Cache.has, Cache.expire]
    split
    · rfl
    · split <;> rfl
  | sleep duration => exact Cache.options_sweepAll _ _
  | delete | clear | cleanup | invalidate | size | statistics | capacity | defaultTtl
  | startSweeper | startSweeperEvery | stopSweeper | isSweeping => rfl

/-! ### Whole histories -/

section History

variable (options : CacheOptions) (hosted : Bool) (ops : List (CacheOp κ ν))

theorem now_run : ((start options hosted).run ops).now = CacheOp.elapsed ops := by
  induction ops using List.reverseRecOn with
  | nil => rfl
  | append_singleton ops op ih => rw [run_concat, now_step, ih, CacheOp.elapsed_concat]

theorem distinct_run : ((start options hosted).run ops).swept.cache.Distinct := by
  induction ops using List.reverseRecOn with
  | nil => exact Cache.distinct_empty options
  | append_singleton ops op ih => rw [run_concat]; exact distinct_step ih op

theorem defaultTtl_run :
    ((start options hosted).run ops).swept.cache.options.defaultTtl = options.defaultTtl := by
  induction ops using List.reverseRecOn with
  | nil => rfl
  | append_singleton ops op ih => rw [run_concat, options_step, ih]

end History

variable {ops : List (CacheOp κ ν)} {value : ν} {ttl : Option Nat}
  {before after : List (CacheOp κ ν)}

/-- A history that ends with storing under a key leaves just what this operation stores. -/
theorem leaves_concat_set {stored : ν} {life : Option Nat} :
    session.Leaves (ops ++ [.set key stored life]) key value ttl before after ↔
      value = stored ∧ ttl = life ∧ before = ops ∧ after = [] := by
  constructor
  · intro hleaves
    have hsplit := hleaves.split
    -- If anything came after the latest storing, the last operation would be a later one.
    rcases List.eq_nil_or_concat after with rfl | ⟨initial, last, rfl⟩
    · obtain ⟨rfl, hset⟩ := List.append_inj' hsplit rfl
      cases hset
      exact ⟨rfl, rfl, rfl, rfl⟩
    · rw [List.concat_eq_append, ← List.cons_append, ← List.append_assoc] at hsplit
      obtain ⟨-, hlast⟩ := List.append_inj' hsplit rfl
      cases hlast
      refine absurd ?_ (hleaves.latest (.set key stored life) (by simp))
      exact rfl
  · rintro ⟨rfl, rfl, rfl, rfl⟩
    exact ⟨rfl, by simp, by simp, by simp⟩

/-- A history that ends with another operation leaves what it left without it, if the operation
spares it. -/
theorem leaves_concat {op : CacheOp κ ν} (hstores : ¬ op.Stores key) :
    session.Leaves (ops ++ [op]) key value ttl before after ↔
      (session.run ops).Spares op key ∧
        ∃ initial, after = initial ++ [op] ∧ session.Leaves ops key value ttl before initial := by
  constructor
  · intro hleaves
    have hsplit := hleaves.split
    rcases List.eq_nil_or_concat after with rfl | ⟨initial, last, rfl⟩
    · -- The last operation is not the one that stored the value.
      obtain ⟨-, hset⟩ := List.append_inj' hsplit rfl
      cases hset
      exact absurd rfl hstores
    · rw [List.concat_eq_append] at hleaves hsplit ⊢
      rw [← List.cons_append, ← List.append_assoc] at hsplit
      obtain ⟨rfl, hlast⟩ := List.append_inj' hsplit rfl
      cases hlast
      refine ⟨⟨hstores, hleaves.kept op (by simp), hleaves.not_evicted initial op [] rfl⟩,
        initial, rfl, rfl, fun other hmem => hleaves.latest other (List.mem_append_left _ hmem),
        fun other hmem => hleaves.kept other (List.mem_append_left _ hmem), ?_⟩
      rintro earlier other later rfl
      exact hleaves.not_evicted earlier other (later ++ [op]) (by simp)
  · rintro ⟨hspares, initial, rfl, hleaves⟩
    obtain rfl := hleaves.split
    refine ⟨by simp, ?_, ?_, ?_⟩
    · intro other hother
      rcases List.mem_append.mp hother with hmem | hmem
      · exact hleaves.latest other hmem
      · exact List.mem_singleton.mp hmem ▸ hstores
    · intro other hother
      rcases List.mem_append.mp hother with hmem | hmem
      · exact hleaves.kept other hmem
      · exact List.mem_singleton.mp hmem ▸ hspares.not_removes
    · intro earlier other later hlater
      rcases List.eq_nil_or_concat later with rfl | ⟨rest, last, rfl⟩
      · obtain ⟨rfl, hother⟩ := List.append_inj' hlater rfl
        cases hother
        exact hspares.not_evicts
      · rw [List.concat_eq_append, ← List.cons_append, ← List.append_assoc] at hlater
        exact hleaves.not_evicted earlier other rest (List.append_inj' hlater rfl).1

/-- The record that a history has left under a key, whether or not it has expired by now. -/
def Left (options : CacheOptions) (hosted : Bool) (ops : List (CacheOp κ ν)) (key : κ)
    (record : ν × Option Nat) : Prop :=
  ∃ ttl before after, (start options hosted).Leaves ops key record.1 ttl before after ∧
    record.2 = deadline? (CacheOp.elapsed before) (ttl <|> options.defaultTtl)

section Left

variable {options : CacheOptions} {hosted : Bool} {record : ν × Option Nat}

theorem not_left_nil : ¬ Left options hosted [] key record := by
  rintro ⟨ttl, before, after, hleaves, -⟩
  exact absurd hleaves.split (by simp)

theorem left_concat_set :
    Left options hosted (ops ++ [.set key value ttl]) key record ↔
      record = (value, deadline? (CacheOp.elapsed ops) (ttl <|> options.defaultTtl)) := by
  constructor
  · rintro ⟨life, before, after, hleaves, hdeadline⟩
    obtain ⟨hvalue, rfl, rfl, -⟩ := leaves_concat_set.mp hleaves
    rw [← hdeadline, ← hvalue]
  · rintro rfl
    exact ⟨ttl, ops, [], leaves_concat_set.mpr ⟨rfl, rfl, rfl, rfl⟩, rfl⟩

theorem left_concat {op : CacheOp κ ν} (hstores : ¬ op.Stores key) :
    Left options hosted (ops ++ [op]) key record ↔
      ((start options hosted).run ops).Spares op key ∧ Left options hosted ops key record := by
  constructor
  · rintro ⟨ttl, before, after, hleaves, hdeadline⟩
    obtain ⟨hspares, initial, -, hinitial⟩ := (leaves_concat hstores).mp hleaves
    exact ⟨hspares, ttl, before, initial, hinitial, hdeadline⟩
  · rintro ⟨hspares, ttl, before, initial, hinitial, hdeadline⟩
    exact ⟨ttl, before, initial ++ [op],
      (leaves_concat hstores).mpr ⟨hspares, initial, rfl, hinitial⟩, hdeadline⟩

end Left

/-- After any history a key has at most one record left, and the record lingers in the cache. -/
theorem exists_lingers (options : CacheOptions) (hosted : Bool) (ops : List (CacheOp κ ν))
    (key : κ) :
    ∃ left, (∀ record, left = some record ↔ Left options hosted ops key record) ∧
      Lingers (CacheOp.elapsed ops) left (((start options hosted).run ops).record? key) := by
  -- Induction on the history, one operation more at its end.
  induction ops using List.reverseRecOn with
  | nil =>
    refine ⟨none, fun record => ⟨nofun, fun hleft => absurd hleft not_left_nil⟩, .inl rfl⟩
  | append_singleton ops op ih =>
    obtain ⟨left, hleft, hlingers⟩ := ih
    have hdistinct := distinct_run options hosted ops
    rw [run_concat]
    by_cases hstores : op.Stores key
    · -- What is left is what the operation stores, whatever was left before.
      obtain ⟨value, ttl, rfl⟩ : ∃ value ttl, op = .set key value ttl := by
        cases op with
        | set other value ttl => exact ⟨value, ttl, by rw [show other = key from hstores]⟩
        | _ => exact hstores.elim
      refine ⟨some (value, deadline? (CacheOp.elapsed ops) (ttl <|> options.defaultTtl)),
        fun record => ?_, .inl ?_⟩
      · rw [left_concat_set, Option.some.injEq, eq_comm]
      · rw [record?_step_set, now_run, defaultTtl_run]
    · by_cases hspares : ((start options hosted).run ops).Spares op key
      · -- What was left is still left, though it may expire while the operation takes its time.
        refine ⟨left, fun record => ?_, hlingers.trans (by simp) ?_⟩
        · rw [hleft, left_concat hstores, and_iff_right hspares]
        · have hstep := record?_step_of_spares hdistinct hspares
          rwa [now_step, now_run, ← CacheOp.elapsed_concat] at hstep
      · -- The operation takes away what was left.
        have hgone : op.Removes key ∨ ((start options hosted).run ops).evicted? op = some key := by
          by_contra hneither
          rw [not_or] at hneither
          exact hspares ⟨hstores, hneither.1, hneither.2⟩
        refine ⟨none, fun record => ⟨nofun, fun hrecord => ?_⟩,
          .inl (record?_step_of_gone hdistinct hstores hgone)⟩
        exact absurd ((left_concat hstores).mp hrecord).1 hspares

/-! ### Lookups -/

/-- Looking a key up finds the value of its record, if that is live. -/
theorem get_iff_isLive : (session.step (.get key)).1 = .found (some value) ↔
    ∃ record, session.record? key = some record ∧ IsLive session.now record ∧ record.1 = value := by
  simp only [step, Cache.get, record?, CacheAnswer.found.injEq]
  cases session.swept.cache.find? key with
  | none => simp
  | some entry => cases hexpired : entry.isExpired session.now <;> simp [isLive_iff, hexpired]

/-- Asking for a key finds its record, if that is live. -/
theorem has_iff_isLive : (session.step (.has key)).1 = .flag true ↔
    ∃ record, session.record? key = some record ∧ IsLive session.now record := by
  simp only [step, Cache.has, record?, CacheAnswer.flag.injEq]
  cases session.swept.cache.find? key with
  | none => simp
  | some entry => cases hexpired : entry.isExpired session.now <;> simp [isLive_iff, hexpired]

/-- A live record is found just if the history has left it. -/
theorem record?_run_iff_left {options : CacheOptions} {hosted : Bool} {record : ν × Option Nat}
    (hlive : IsLive (CacheOp.elapsed ops) record) :
    ((start options hosted).run ops).record? key = some record ↔
      Left options hosted ops key record := by
  obtain ⟨left, hleft, hsame | ⟨hnone, hexpired⟩⟩ := exists_lingers options hosted ops key
  · rw [hsame, hleft]
  · -- What was dropped had expired, so it was not this record.
    rw [hnone, ← hleft]
    exact ⟨nofun, fun hrecord => absurd hlive (hexpired record hrecord)⟩

/-- The time to live of what is stored at a moment is not over at a later one: there is none, or
the deadline lies beyond the end of time or after the later moment. -/
def Lasts (moment now : Nat) (life : Option Nat) : Prop :=
  ∀ span, life = some span → moment + span < endOfTime → now < moment + span

omit [DecidableEq κ] in
theorem isLive_deadline? {moment now : Nat} {life : Option Nat} :
    IsLive now (value, deadline? moment life) ↔ Lasts moment now life := by
  cases life with
  | none => simp [IsLive, Lasts, deadline?]
  | some span =>
    by_cases hend : moment + span < endOfTime <;> simp [IsLive, Lasts, deadline?, hend]

/-- The live records in a cache are those that the history has left and whose time is not over. -/
theorem exists_isLive_iff_leaves (options : CacheOptions) (hosted : Bool)
    (ops : List (CacheOp κ ν)) (key : κ) (value : ν) :
    (∃ record, ((start options hosted).run ops).record? key = some record ∧
      IsLive (CacheOp.elapsed ops) record ∧ record.1 = value) ↔
    ∃ ttl before after, (start options hosted).Leaves ops key value ttl before after ∧
      Lasts (CacheOp.elapsed before) (CacheOp.elapsed ops) (ttl <|> options.defaultTtl) := by
  constructor
  · rintro ⟨⟨_, deadline⟩, hrecord, hlive, rfl⟩
    obtain ⟨ttl, before, after, hleaves, rfl⟩ := (record?_run_iff_left hlive).mp hrecord
    exact ⟨ttl, before, after, hleaves, isLive_deadline?.mp hlive⟩
  · rintro ⟨ttl, before, after, hleaves, hlasts⟩
    have hlive : IsLive (CacheOp.elapsed ops)
        (value, deadline? (CacheOp.elapsed before) (ttl <|> options.defaultTtl)) :=
      isLive_deadline?.mpr hlasts
    exact ⟨_, (record?_run_iff_left hlive).mpr ⟨ttl, before, after, hleaves, rfl⟩, hlive, rfl⟩

/-- After any history a lookup of a key finds a value just if it is the latest one that was stored
under the key, was neither removed nor given up for another one since, and has not expired; and
asking for the key tells whether there is such a value. -/
theorem lookup_iff_leaves (options : CacheOptions) (hosted : Bool) (ops : List (CacheOp κ ν))
    (key : κ) :
    (∀ value, (((start options hosted).run ops).step (.get key)).1 = .found (some value) ↔
      ∃ ttl before after, (start options hosted).Leaves ops key value ttl before after ∧
        Lasts (CacheOp.elapsed before) (CacheOp.elapsed ops) (ttl <|> options.defaultTtl)) ∧
    ((((start options hosted).run ops).step (.has key)).1 = .flag true ↔
      ∃ value ttl before after, (start options hosted).Leaves ops key value ttl before after ∧
        Lasts (CacheOp.elapsed before) (CacheOp.elapsed ops) (ttl <|> options.defaultTtl)) := by
  constructor
  · intro value
    rw [get_iff_isLive, now_run]
    exact exists_isLive_iff_leaves options hosted ops key value
  · rw [has_iff_isLive, now_run]
    simp only [← exists_isLive_iff_leaves]
    constructor
    · rintro ⟨record, hrecord, hlive⟩
      exact ⟨record.1, record, hrecord, hlive, rfl⟩
    · rintro ⟨-, record, hrecord, hlive, -⟩
      exact ⟨record, hrecord, hlive⟩

/-- The value that was stored over an expired one stays, since it was looked up; the other one is
given up for a third. -/
example :
    let session : CacheSession Nat String := (start ⟨2, none, none⟩ false).run
      [.set 1 "a" (some 5), .sleep 5, .set 1 "b" none, .get 1, .set 2 "c" none, .set 3 "d" none]
    (session.step (.get 1)).1 = .found (some "b") ∧ (session.step (.has 2)).1 = .flag false :=
  ⟨rfl, rfl⟩

end CacheSession

end TemplateCatalog
