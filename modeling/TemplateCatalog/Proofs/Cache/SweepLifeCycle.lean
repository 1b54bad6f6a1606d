import Mathlib.Tactic.Ring
import TemplateCatalog.Proofs.Cache.FurtherSweeps

/-!
# The life cycle of periodic sweeps

When periodic sweeps begin and when they end. What the operations of a session have answered tells
which sweeps go on in the background: every start that was granted has begun one, and a stop ends
the one that was begun last, since no other one is known by then. If a start were granted beside a
running sweep, that sweep would go on for ever without anybody being able to stop it; it is shown
that this does not happen, and that the sweeper of a session is the one sweep that goes on.

The module introduces:

* `CacheEvent.begins`, `CacheEvent.stops`, `CacheEvent.begunSinceStop`: starts that were granted,
  and stops, in a history;
* `PeriodicSweep`, `Background`, `CacheEvent.background`: the sweeps that go on after a history,
  those that nobody can stop included;
* `CacheSession.Tended`: the sweeper of a session is the one sweep that goes on.

Main statements:

* `CacheEvent.begins_eq`: when a start is granted.
* `CacheSession.Tended.step`, `CacheSession.tended_runTimed`: there is one sweep at most, and it is
  never replaced.
* `Cache.counts_sweep`: what a tick counts.
* `CacheSession.sweeper_life_cycle`: starts, stops, ticks and the passage of time after any history.
-/

namespace TemplateCatalog

variable {κ ν : Type}

/-! ### Sweeps in the background -/

/-- Sweeps at every whole interval after a moment. -/
structure PeriodicSweep where
  /-- The moment at which it was begun. -/
  since : Nat
  /-- The time between two ticks. -/
  interval : Nat
  deriving DecidableEq, Repr

/-- The sweeper that stands for the sweeps after some ticks. -/
def PeriodicSweep.sweeper (ticked : Nat) (sweep : PeriodicSweep) : Sweeper :=
  ⟨sweep.interval, sweep.since + (ticked + 1) * sweep.interval⟩

/-- The periodic sweeps that go on. -/
structure Background where
  /-- The one that a stop would end. -/
  held : Option PeriodicSweep
  /-- Those that nobody can stop any more. -/
  lost : List PeriodicSweep
  deriving DecidableEq, Repr

/-- All of them. -/
def Background.sweeps (background : Background) : List PeriodicSweep :=
  background.held.toList ++ background.lost

/-! ### Ticks -/

namespace Cache

variable (now : Nat) (cache : Cache κ ν)

/-- A sweep drops as many entries as have expired. -/
theorem sweep_fst : (cache.sweep now).1 =
    cache.entries.countP fun stored => stored.2.isExpired now := by
  have hsize := cache.size_sweep_add now
  have hlive : (cache.sweep now).2.size =
      cache.entries.countP fun stored => !stored.2.isExpired now :=
    List.countP_eq_length_filter.symm
  have hall : cache.size = (cache.entries.countP fun stored => stored.2.isExpired now) +
      cache.entries.countP fun stored => !stored.2.isExpired now := by
    simpa [size] using
      List.length_eq_countP_add_countP fun stored : κ × Entry ν => stored.2.isExpired now
  omega

/-- What a sweep counts. -/
theorem counts_sweep : (cache.sweep now).2.counts =
    { cache.counts with
      expirations :=
        cache.expirations + cache.entries.countP fun stored => stored.2.isExpired now } := by
  rw [← sweep_fst]
  rfl

end Cache

variable [DecidableEq κ]

/-! ### Starts and stops in a history -/

namespace CacheEvent

variable (event : CacheEvent κ ν)

omit [DecidableEq κ] in
/-- The operation stops the sweeper. -/
def stops : Bool :=
  match event.op with
  | .stopSweeper => true
  | _ => false

omit [DecidableEq κ] in
/-- The interval of the sweeper that the operation asks for. -/
def interval? : Option Nat :=
  match event.op with
  | .startSweeper => event.session.swept.cache.options.sweepInterval
  | .startSweeperEvery interval => some interval
  | _ => none

/-- The operation asks for a sweeper, and the answer is that one was started. -/
def begins : Bool :=
  match event.op with
  | .startSweeper | .startSweeperEvery _ => event.answer.isTrue
  | _ => false

/-- After the last stop of a history some start was granted. -/
def begunSinceStop (events : List (CacheEvent κ ν)) : Bool :=
  (events.rtakeWhile fun event => !event.stops).any begins

/-- A start that is granted begins a sweep, whatever else goes on, and a stop ends the one that was
begun last. -/
def carryOn (background : Background) : Background :=
  if event.begins then
    { held := event.interval?.map fun interval => ⟨event.session.now, interval⟩
      lost := background.sweeps }
  else if event.stops then { background with held := none }
  else background

/-- The sweeps that go on after a history. -/
def background (events : List (CacheEvent κ ν)) : Background :=
  events.foldl (fun background event => event.carryOn background) ⟨none, []⟩

theorem begunSinceStop_concat (events : List (CacheEvent κ ν)) :
    begunSinceStop (events ++ [event]) =
      (!event.stops && (begunSinceStop events || event.begins)) := by
  unfold begunSinceStop
  cases hstops : event.stops with
  | true =>
    rw [List.rtakeWhile_concat_neg _ _ _ (by simp [hstops])]
    rfl
  | false =>
    rw [List.rtakeWhile_concat_pos _ _ _ (by simp [hstops]), List.any_append]
    simp

theorem background_concat (events : List (CacheEvent κ ν)) :
    background (events ++ [event]) = event.carryOn (background events) := by
  simp [background]

end CacheEvent

/-! ### Starts -/

namespace SweptCache

variable (swept : SweptCache κ ν) (now : Nat) (hosted : Bool) (interval : Nat)

omit [DecidableEq κ]

theorem startEvery_fst : (swept.startEvery now hosted interval).1 =
    (hosted && decide (0 < interval) && !swept.isRunning) := by
  have hpos : decide (0 < interval) = !decide (interval = 0) := by
    rw [← decide_not]
    exact decide_eq_decide.mpr Nat.pos_iff_ne_zero
  rw [startEvery, isRunning, hpos]
  cases decide (interval = 0) <;> cases swept.sweeper.isSome <;> cases hosted <;> rfl

/-- What a start makes of a cache: nothing if it is refused. -/
theorem startEvery_snd : (swept.startEvery now hosted interval).2 =
    if (swept.startEvery now hosted interval).1 then
      { swept with sweeper := some ⟨interval, now + interval⟩ }
    else swept := by
  rw [startEvery]
  split <;> rfl

variable {interval}

/-- A start with the interval of the cache is a start with this interval. -/
theorem start_of_some (hinterval : swept.cache.options.sweepInterval = some interval) :
    swept.start now hosted = swept.startEvery now hosted interval := by
  rw [start, hinterval]

/-- A cache without an interval refuses to start a sweeper. -/
theorem start_of_none (hinterval : swept.cache.options.sweepInterval = none) :
    swept.start now hosted = (false, swept) := by
  rw [start, hinterval]

/-- Time alone changes nothing while no sweeper is running. -/
theorem pass_of_not_running {swept : SweptCache κ ν} (hstopped : swept.isRunning = false)
    (later : Nat) : swept.pass later = swept := by
  rw [isRunning, Option.isSome_eq_false_iff, Option.isNone_iff_eq_none] at hstopped
  exact pass_of_none hstopped later

end SweptCache

namespace CacheEvent

variable (event : CacheEvent κ ν)

/-- An operation that asks for no sweeper, or a start with an interval that may be absent. -/
theorem start_cases :
    (event.begins = false ∧ event.interval? = none) ∨
      ∃ interval, event.interval? = some interval ∧
        event.begins =
          (event.session.swept.startEvery event.session.now event.session.hosted interval).1 ∧
        (event.session.step event.op).2.swept =
          (event.session.swept.startEvery event.session.now event.session.hosted interval).2 := by
  obtain ⟨session, op⟩ := event
  cases op with
  | startSweeper =>
    cases hinterval : session.swept.cache.options.sweepInterval with
    | none =>
      refine .inl ⟨?_, hinterval⟩
      show (session.swept.start session.now session.hosted).1 = false
      rw [SweptCache.start_of_none _ _ _ hinterval]
    | some interval =>
      refine .inr ⟨interval, hinterval, ?_, ?_⟩
      · show (session.swept.start session.now session.hosted).1 = _
        rw [SweptCache.start_of_some _ _ _ hinterval]
      · show (session.swept.start session.now session.hosted).2 = _
        rw [SweptCache.start_of_some _ _ _ hinterval]
  | startSweeperEvery interval => exact .inr ⟨interval, rfl, rfl, rfl⟩
  | set | get | has | delete | clear | cleanup | invalidate | size | statistics | capacity
  | defaultTtl | stopSweeper | isSweeping | sleep => exact .inl ⟨rfl, rfl⟩

/-- A start is granted if there is a host, the interval is there and is not empty, and no sweeper is
running. -/
theorem begins_eq : event.begins =
    (event.session.hosted && event.interval?.any (0 < ·) && !event.session.swept.isRunning) := by
  rcases event.start_cases with ⟨hbegins, hinterval⟩ | ⟨interval, hinterval, hbegins, -⟩
  · rw [hbegins, hinterval, Option.any_none, Bool.and_false, Bool.false_and]
  · rw [hbegins, hinterval, SweptCache.startEvery_fst]
    rfl

/-- A start that is granted begins to sweep, one interval later for the first time. -/
theorem sweeper_of_begins (hbegins : event.begins = true) :
    ∃ interval, event.interval? = some interval ∧
      (event.session.step event.op).2.swept.sweeper =
        some ⟨interval, event.session.now + interval⟩ := by
  rcases event.start_cases with ⟨hrefused, -⟩ | ⟨interval, hinterval, hgranted, hswept⟩
  · rw [hrefused] at hbegins
    cases hbegins
  · refine ⟨interval, hinterval, ?_⟩
    rw [hswept, SweptCache.startEvery_snd, ← hgranted, hbegins]
    rfl

end CacheEvent

namespace PeriodicSweep

variable {sweep : PeriodicSweep} {ticked later : Nat}

/-- A sweeper that has ticked goes on to stand for the same sweeps. -/
theorem exists_moved (hdue : (sweep.sweeper ticked).due ≤ later) :
    ∃ more, (sweep.sweeper ticked).moved later = sweep.sweeper more := by
  let passed := (later - (sweep.sweeper ticked).due) / sweep.interval
  refine ⟨ticked + passed + 1, ?_⟩
  -- The whole intervals add up.
  have hwhole : sweep.since + (ticked + 1) * sweep.interval + passed * sweep.interval +
      sweep.interval = sweep.since + (ticked + passed + 1 + 1) * sweep.interval := by
    ring
  rw [Sweeper.moved, Sweeper.lastTick_eq hdue]
  exact congrArg (Sweeper.mk sweep.interval) hwhole

/-- Sweeps that have just begun tick at all whole intervals. -/
theorem ticks_eq (hpos : 0 < sweep.interval) (duration : Nat) :
    (sweep.sweeper 0).ticks (sweep.since + duration) =
      (List.range (duration / sweep.interval)).map fun n =>
        sweep.since + (n + 1) * sweep.interval := by
  have hdue : (sweep.sweeper 0).due = sweep.since + sweep.interval := by
    rw [sweeper, Nat.zero_add, Nat.one_mul]
  rw [Sweeper.ticks, hdue]
  by_cases hlong : sweep.interval ≤ duration
  · have hcount : (sweep.since + duration - (sweep.since + sweep.interval)) / sweep.interval + 1 =
        duration / sweep.interval := by
      rw [Nat.add_sub_add_left, Nat.div_eq_sub_div hpos hlong]
    rw [if_neg (by omega)]
    show (List.range ((_ - _) / sweep.interval + 1)).map
      (fun n => sweep.since + sweep.interval + n * sweep.interval) = _
    rw [hcount]
    apply List.map_congr_left
    intro n _
    ring
  · -- The first tick lies beyond the end.
    rw [if_pos (by omega), Nat.div_eq_of_lt (Nat.lt_of_not_le hlong)]
    rfl

/-- The ticks come at whole intervals after the moment at which the sweeps were begun. -/
theorem exists_of_mem_ticks {moment : Nat} (hmoment : moment ∈ (sweep.sweeper ticked).ticks later) :
    ∃ n, moment = sweep.since + (n + 1) * sweep.interval := by
  unfold Sweeper.ticks at hmoment
  split at hmoment
  · cases hmoment
  · obtain ⟨n, -, rfl⟩ := List.mem_map.mp hmoment
    refine ⟨ticked + n, ?_⟩
    show sweep.since + (ticked + 1) * sweep.interval + n * sweep.interval = _
    ring

end PeriodicSweep

namespace CacheEvent

variable (event : CacheEvent κ ν) {held : Option PeriodicSweep} {ticked : Nat}

theorem stops_of_begins (hbegins : event.begins = true) : event.stops = false := by
  obtain ⟨session, op⟩ := event
  cases op with
  | stopSweeper => cases hbegins
  | set | get | has | delete | clear | cleanup | invalidate | size | statistics | capacity
  | defaultTtl | startSweeper | startSweeperEvery | isSweeping | sleep => rfl

theorem sweeper_of_stops (hstops : event.stops = true) :
    (event.session.step event.op).2.swept.sweeper = none := by
  obtain ⟨session, op⟩ := event
  cases op with
  | stopSweeper => rfl
  | set | get | has | delete | clear | cleanup | invalidate | size | statistics | capacity
  | defaultTtl | startSweeper | startSweeperEvery | isSweeping | sleep => cases hstops

/-- An operation that neither begins nor stops anything leaves the sweeper to its sweeps. -/
theorem exists_sweeper_of_goes_on (hbegins : event.begins = false) (hstops : event.stops = false)
    (hsweeper : event.session.swept.sweeper = held.map (PeriodicSweep.sweeper ticked)) :
    ∃ more, (event.session.step event.op).2.swept.sweeper =
      held.map (PeriodicSweep.sweeper more) := by
  rcases event.start_cases with ⟨-, hinterval⟩ | ⟨interval, -, hrefused, hswept⟩
  · obtain ⟨session, op⟩ := event
    cases op with
    | sleep duration =>
      show ∃ more, (session.swept.pass (session.now + duration)).sweeper = _
      -- Before the next tick is due the sweeper waits, and then it moves on.
      have hsame : session.swept.sweeper = held.map (PeriodicSweep.sweeper ticked) := hsweeper
      rw [SweptCache.sweeper_pass, hsame]
      cases held with
      | none => exact ⟨ticked, rfl⟩
      | some sweep =>
        by_cases hdue : (sweep.sweeper ticked).due ≤ session.now + duration
        · obtain ⟨more, hmoved⟩ := PeriodicSweep.exists_moved hdue
          refine ⟨more, ?_⟩
          rw [Option.map_some, Option.map_some, if_neg (Nat.not_lt_of_le hdue), hmoved]
          rfl
        · refine ⟨ticked, ?_⟩
          rw [Option.map_some, Option.map_some, if_pos (Nat.lt_of_not_le hdue)]
    | stopSweeper => cases hstops
    | startSweeperEvery interval => cases hinterval
    | startSweeper =>
      refine ⟨ticked, ?_⟩
      show (session.swept.start session.now session.hosted).2.sweeper = _
      rw [SweptCache.start_of_none _ _ _ hinterval]
      exact hsweeper
    | set | get | has | delete | clear | cleanup | invalidate | size | statistics | capacity
    | defaultTtl | isSweeping => exact ⟨ticked, hsweeper⟩
  · refine ⟨ticked, ?_⟩
    rw [hswept, SweptCache.startEvery_snd, ← hrefused, hbegins]
    exact hsweeper

end CacheEvent

namespace CacheSession

/-- After a start that is granted the cache is swept at all whole intervals. -/
theorem cache_sleep_of_started (session : CacheSession κ ν) {interval : Nat}
    (hstarted : (session.swept.startEvery session.now session.hosted interval).1 = true)
    (duration : Nat) :
    let begun := (session.step (.startSweeperEvery interval)).2
    (begun.step (.sleep duration)).2.swept.cache =
      session.swept.cache.sweepAll ((List.range (duration / interval)).map fun n =>
        session.now + (n + 1) * interval) := by
  intro begun
  let sweep : PeriodicSweep := ⟨session.now, interval⟩
  have hpos : 0 < interval := by
    rw [SweptCache.startEvery_fst, Bool.and_eq_true, Bool.and_eq_true] at hstarted
    exact of_decide_eq_true hstarted.1.2
  have hbegun : begun.swept = { session.swept with sweeper := some (sweep.sweeper 0) } := by
    show (session.swept.startEvery session.now session.hosted interval).2 = _
    rw [SweptCache.startEvery_snd, if_pos hstarted, PeriodicSweep.sweeper, Nat.zero_add,
      Nat.one_mul]
  show (begun.swept.pass (session.now + duration)).cache = _
  rw [SweptCache.cache_pass, hbegun, SweptCache.ticks_of_some rfl, sweep.ticks_eq hpos]

/-- Without a sweeper stops do nothing. -/
theorem run_stops {session : CacheSession κ ν} (hsweeper : session.swept.sweeper = none)
    (count : Nat) : session.run (List.replicate count .stopSweeper) = session := by
  have hstop : (session.step .stopSweeper).2 = session := by
    show { session with swept := session.swept.stop } = session
    rw [SweptCache.stop, ← hsweeper]
  induction count with
  | zero => rfl
  | succ count ih =>
    show (session.step .stopSweeper).2.run (List.replicate count .stopSweeper) = session
    rw [hstop, ih]

/-! ### Whole histories -/

/-- The sweeper of a session is the one sweep that goes on after its history, if there is one. -/
structure Tended (events : List (CacheEvent κ ν)) (session : CacheSession κ ν) : Prop where
  /-- No sweep goes on that nobody can stop. -/
  lost : (CacheEvent.background events).lost = []
  sweeper : ∃ ticked, session.swept.sweeper =
    (CacheEvent.background events).held.map (PeriodicSweep.sweeper ticked)
  /-- A sweep goes on just if some start was granted after the last stop. -/
  begun : (CacheEvent.background events).held.isSome = CacheEvent.begunSinceStop events

theorem tended_start (options : CacheOptions) (hosted : Bool) :
    Tended ([] : List (CacheEvent κ ν)) (start options hosted) :=
  ⟨rfl, ⟨0, rfl⟩, rfl⟩

section Tended

variable {events : List (CacheEvent κ ν)} {session : CacheSession κ ν}

theorem Tended.isRunning_eq (htended : Tended events session) :
    session.swept.isRunning = CacheEvent.begunSinceStop events := by
  obtain ⟨ticked, hsweeper⟩ := htended.sweeper
  rw [SweptCache.isRunning, hsweeper, Option.isSome_map, htended.begun]

theorem Tended.length_sweeps (htended : Tended events session) :
    (CacheEvent.background events).sweeps.length = (CacheEvent.begunSinceStop events).toNat := by
  rw [Background.sweeps, htended.lost, List.append_nil, ← htended.begun]
  cases (CacheEvent.background events).held <;> rfl

/-- The sweeper ticks for the one sweep that goes on. -/
theorem Tended.exists_of_mem_ticks (htended : Tended events session) {moment later : Nat}
    (hmoment : moment ∈ session.swept.ticks later) :
    ∃ sweep ∈ (CacheEvent.background events).sweeps, ∃ n,
      moment = sweep.since + (n + 1) * sweep.interval := by
  obtain ⟨ticked, hsweeper⟩ := htended.sweeper
  cases hheld : (CacheEvent.background events).held with
  | none =>
    rw [hheld] at hsweeper
    rw [SweptCache.ticks_of_none hsweeper] at hmoment
    cases hmoment
  | some sweep =>
    rw [hheld] at hsweeper
    rw [SweptCache.ticks_of_some hsweeper] at hmoment
    refine ⟨sweep, ?_, PeriodicSweep.exists_of_mem_ticks hmoment⟩
    rw [Background.sweeps, hheld]
    exact List.mem_cons_self

/-- A start that is granted leaves one sweep, since none went on before. -/
theorem Tended.step_of_begins {event : CacheEvent κ ν} (htended : Tended events event.session)
    (hbegins : event.begins = true) :
    Tended (events ++ [event]) (event.session.step event.op).2 := by
  have hgranted := event.begins_eq
  rw [hbegins, htended.isRunning_eq, ← htended.begun, eq_comm, Bool.and_eq_true,
    Bool.not_eq_true', Option.isSome_eq_false_iff, Option.isNone_iff_eq_none] at hgranted
  obtain ⟨interval, hinterval, hsweeper⟩ := event.sweeper_of_begins hbegins
  have hnothing : (CacheEvent.background events).sweeps = [] := by
    rw [Background.sweeps, hgranted.2, htended.lost]
    rfl
  have hbackground : CacheEvent.background (events ++ [event]) =
      ⟨some ⟨event.session.now, interval⟩, []⟩ := by
    rw [CacheEvent.background_concat, CacheEvent.carryOn, if_pos hbegins, hinterval, hnothing]
    rfl
  constructor
  · rw [hbackground]
  · refine ⟨0, ?_⟩
    rw [hbackground, hsweeper, Option.map_some, PeriodicSweep.sweeper, Nat.zero_add, Nat.one_mul]
  · rw [hbackground, CacheEvent.begunSinceStop_concat, event.stops_of_begins hbegins, hbegins,
      Bool.or_true]
    rfl

/-- A stop ends the one sweep that goes on. -/
theorem Tended.step_of_stops {event : CacheEvent κ ν} (htended : Tended events event.session)
    (hbegins : event.begins = false) (hstops : event.stops = true) :
    Tended (events ++ [event]) (event.session.step event.op).2 := by
  have hbackground : CacheEvent.background (events ++ [event]) = ⟨none, []⟩ := by
    rw [CacheEvent.background_concat, CacheEvent.carryOn, if_neg (by simp [hbegins]),
      if_pos hstops, htended.lost]
  constructor
  · rw [hbackground]
  · refine ⟨0, ?_⟩
    rw [hbackground, event.sweeper_of_stops hstops]
    rfl
  · rw [hbackground, CacheEvent.begunSinceStop_concat, hstops]
    rfl

/-- One operation more keeps the sweeper the one sweep that goes on. -/
theorem Tended.step {event : CacheEvent κ ν} (htended : Tended events event.session) :
    Tended (events ++ [event]) (event.session.step event.op).2 := by
  cases hbegins : event.begins with
  | true => exact htended.step_of_begins hbegins
  | false =>
    cases hstops : event.stops with
    | true => exact htended.step_of_stops hbegins hstops
    | false =>
      -- What goes on is what went on before.
      have hbackground : CacheEvent.background (events ++ [event]) =
          CacheEvent.background events := by
        rw [CacheEvent.background_concat, CacheEvent.carryOn, if_neg (by simp [hbegins]),
          if_neg (by simp [hstops])]
      obtain ⟨ticked, hsweeper⟩ := htended.sweeper
      constructor
      · rw [hbackground, htended.lost]
      · rw [hbackground]
        exact event.exists_sweeper_of_goes_on hbegins hstops hsweeper
      · rw [hbackground, CacheEvent.begunSinceStop_concat, hstops, hbegins, Bool.or_false,
          Bool.not_false, Bool.true_and, htended.begun]

end Tended

section Histories

variable (options : CacheOptions) (hosted : Bool) (ops : List (TimedOp κ ν))

theorem tended_runTimed :
    Tended ((start options hosted).events ops) ((start options hosted).runTimed ops) := by
  -- Induction on the history, one operation more at its end.
  induction ops using List.reverseRecOn with
  | nil => exact tended_start options hosted
  | append_singleton ops timed ih =>
    rw [runTimed_concat, events_concat]
    let event : CacheEvent κ ν := ⟨((start options hosted).runTimed ops).setClock timed.1, timed.2⟩
    -- Setting the clock leaves the sweeper alone.
    have htended : Tended ((start options hosted).events ops) event.session := { ih with }
    exact htended.step

theorem hosted_runTimed : ((start options hosted).runTimed ops).hosted = hosted := by
  induction ops using List.reverseRecOn with
  | nil => rfl
  | append_singleton ops timed ih =>
    rw [runTimed_concat, hosted_step]
    exact ih

/-- Which starts are granted after a history, at whatever moment. -/
theorem begins_runTimed (now : Nat) (op : CacheOp κ ν) :
    let event : CacheEvent κ ν := ⟨((start options hosted).runTimed ops).setClock now, op⟩
    event.begins = (hosted && event.interval?.any (0 < ·) &&
      !CacheEvent.begunSinceStop ((start options hosted).events ops)) := by
  intro event
  have hhosted : event.session.hosted = hosted := hosted_runTimed options hosted ops
  have hrunning : event.session.swept.isRunning =
      CacheEvent.begunSinceStop ((start options hosted).events ops) :=
    (tended_runTimed options hosted ops).isRunning_eq
  rw [event.begins_eq, hhosted, hrunning]

end Histories

/-- The life cycle of periodic sweeps after any history. A start is granted if there is a host, the
interval that is asked for is there and is not empty, and no sweeps are running; they are running
just if some start was granted after the last stop. A stop leaves the entries alone, and further
stops do nothing. There is one sweep at most that goes on. A tick removes the entries that have
expired, and no others, and adds their number to the expirations. While time passes the cache only
changes by ticks, at whole intervals after the moment at which the sweep was begun; so nothing
changes while none is running. After a start that is granted no interval goes by without a tick. -/
theorem sweeper_life_cycle (options : CacheOptions) (hosted : Bool) (ops : List (TimedOp κ ν)) :
    let session := (start options hosted).runTimed ops
    let events := (start options hosted).events ops
    let cache := session.swept.cache
    let running := CacheEvent.begunSinceStop events
    let sweeps := (CacheEvent.background events).sweeps
    ((∀ now interval, ((session.setClock now).step (.startSweeperEvery interval)).1 =
        .flag (hosted && decide (0 < interval) && !running)) ∧
      ∀ now, ((session.setClock now).step .startSweeper).1 =
        .flag (hosted && options.sweepInterval.any (0 < ·) && !running)) ∧
      (session.step .isSweeping).1 = .flag running ∧
      (∀ now count,
        let stopped := ((session.setClock now).step .stopSweeper).2
        stopped.swept.cache = cache ∧ (stopped.step .isSweeping).1 = .flag false ∧
          stopped.run (List.replicate count .stopSweeper) = stopped) ∧
      sweeps.length = running.toNat ∧
      (∀ now,
        let ticked := (session.setClock now).tick.swept.cache
        (∀ key, ticked.find? key = (cache.find? key).filter (!·.isExpired now)) ∧
          ticked.counts = { cache.counts with
            expirations :=
              cache.expirations + cache.entries.countP fun stored => stored.2.isExpired now }) ∧
      (∀ now duration,
        let later := ((session.setClock now).step (.sleep duration)).2
        (running = false → later.swept = session.swept) ∧
          ∃ moments, later.swept.cache = cache.sweepAll moments ∧
            ∀ moment ∈ moments, moment ≤ now + duration ∧
              ∃ sweep ∈ sweeps, ∃ n, moment = sweep.since + (n + 1) * sweep.interval) ∧
      ∀ now interval duration, hosted = true → 0 < interval → running = false →
        let begun := ((session.setClock now).step (.startSweeperEvery interval)).2
        (begun.step (.sleep duration)).2.swept.cache =
          cache.sweepAll ((List.range (duration / interval)).map fun n =>
            now + (n + 1) * interval) := by
  intro session events cache running sweeps
  have htended : Tended events session := tended_runTimed options hosted ops
  have hbounded : cache.Bounded ops.length := bounded_runTimed options hosted ops
  have hinterval : cache.options.sweepInterval = options.sweepInterval := by
    rw [options_runTimed options hosted ops]
  refine ⟨⟨?_, ?_⟩, ?_, ?_, htended.length_sweeps, ?_, ?_, ?_⟩
  -- Both ways to start are granted alike; they differ in where the interval comes from.
  · intro now interval
    exact congrArg CacheAnswer.flag
      (begins_runTimed options hosted ops now (.startSweeperEvery interval))
  · intro now
    rw [← hinterval]
    exact congrArg CacheAnswer.flag (begins_runTimed options hosted ops now .startSweeper)
  · exact congrArg CacheAnswer.flag htended.isRunning_eq
  · intro now count stopped
    exact ⟨rfl, rfl, run_stops rfl count⟩
  -- A tick is a sweep at the present moment.
  · intro now ticked
    exact ⟨Cache.find?_sweep hbounded.distinct now, cache.counts_sweep now⟩
  -- Time that passes does to the cache what the ticks in it do, and nobody else ticks.
  · intro now duration later
    refine ⟨fun hstopped => ?_, session.swept.ticks (now + duration), ?_, ?_⟩
    · exact SweptCache.pass_of_not_running (htended.isRunning_eq.trans hstopped) (now + duration)
    · exact SweptCache.cache_pass session.swept (now + duration)
    · intro moment hmoment
      exact ⟨SweptCache.le_of_mem_ticks hmoment, htended.exists_of_mem_ticks hmoment⟩
  · intro now interval duration hhosted hpos hstopped
    refine cache_sleep_of_started (session.setClock now) ?_ duration
    apply (begins_runTimed options hosted ops now (.startSweeperEvery interval)).trans
    show (hosted && decide (0 < interval) && !running) = true
    rw [hhosted, hstopped, decide_eq_true hpos]
    rfl

-- A second start is refused and leaves the first one alone; after a stop another one is granted.
example :
    let ops : List (TimedOp Nat String) :=
      [(0, .startSweeperEvery 5), (2, .startSweeperEvery 1), (2, .sleep 9), (11, .stopSweeper),
        (11, .stopSweeper), (12, .startSweeper)]
    let events := (start ⟨2, none, some 60⟩ true).events ops
    CacheEvent.background (events.take 3) = ⟨some ⟨0, 5⟩, []⟩ ∧
      CacheEvent.background (events.take 5) = ⟨none, []⟩ ∧
      CacheEvent.background events = ⟨some ⟨12, 60⟩, []⟩ := by decide

end CacheSession

end TemplateCatalog
