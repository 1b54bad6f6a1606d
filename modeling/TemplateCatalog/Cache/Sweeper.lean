import TemplateCatalog.Cache.Basic

/-!
# Periodic sweeps

A cache that may be swept in the background while time passes. A sweeper needs a host that runs
it; it is started with an interval, at most one runs at a time, and it sweeps at every whole
interval after its start until it is stopped.
-/

namespace TemplateCatalog

/-- A running sweeper. -/
structure Sweeper where
  /-- The time between two sweeps. -/
  interval : Nat
  /-- The moment of the next sweep. -/
  due : Nat
  deriving Repr, DecidableEq

/-- A cache with its sweeper, if one is running. -/
structure SweptCache (κ ν : Type) where
  /-- The cache. -/
  cache : Cache κ ν
  /-- The sweeper that is running. -/
  sweeper : Option Sweeper
  deriving Repr

namespace SweptCache

variable {κ ν : Type} [DecidableEq κ]

/-- An empty cache without a sweeper. -/
def empty (options : CacheOptions) : SweptCache κ ν :=
  ⟨.empty options, none⟩

/-- Start a sweeper with the given interval, and say whether that was done. Without a host, with
an empty interval or beside a running sweeper, nothing is started. -/
def startEvery (now : Nat) (hosted : Bool) (interval : Nat) (swept : SweptCache κ ν) :
    Bool × SweptCache κ ν :=
  if interval = 0 || swept.sweeper.isSome || !hosted then (false, swept)
  else (true, { swept with sweeper := some ⟨interval, now + interval⟩ })

/-- Start a sweeper with the interval that the cache was built with. -/
def start (now : Nat) (hosted : Bool) (swept : SweptCache κ ν) : Bool × SweptCache κ ν :=
  match swept.cache.options.sweepInterval with
  | some interval => swept.startEvery now hosted interval
  | none => (false, swept)

/-- Stop the sweeper. -/
def stop (swept : SweptCache κ ν) : SweptCache κ ν :=
  { swept with sweeper := none }

/-- A sweeper is running. -/
def isRunning (swept : SweptCache κ ν) : Bool :=
  swept.sweeper.isSome

/-- The cache at a later moment. Of the sweeps that fall due until then the last one drops all
that the others would have dropped, so it stands for all of them. -/
def pass (later : Nat) (swept : SweptCache κ ν) : SweptCache κ ν :=
  match swept.sweeper with
  | none => swept
  | some sweeper =>
    if later < sweeper.due then swept
    else
      let last := later - (later - sweeper.due) % sweeper.interval
      { cache := (swept.cache.sweep last).2
        sweeper := some { sweeper with due := last + sweeper.interval } }

end SweptCache

end TemplateCatalog
