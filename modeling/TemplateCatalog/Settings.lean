import TemplateCatalog.Power
import TemplateCatalog.Source.Reader
import TemplateCatalog.Text.Blank

/-!
# Settings

The settings of the cache and of the catalog. They come from a settings file, from the variables
of the environment, or from the defaults, field by field. A malformed number in the environment
is passed over, so a slip there never keeps a program from starting.
-/

namespace TemplateCatalog

/-- The settings of a cache. -/
structure CacheSettings where
  /-- The name of the backend. -/
  provider : String
  /-- How many entries the cache holds at most. -/
  capacity : Nat
  /-- The time to live of entries that are set without one, in milliseconds. -/
  ttl : Option Nat
  /-- The time between two sweeps, in milliseconds; zero means that there are none. -/
  cleanupInterval : Option Nat
  deriving DecidableEq, Repr

/-- The capacity of a cache whose settings name none. -/
def defaultCapacity : Nat :=
  1000

namespace CacheSettings

/-- The settings of a cache that is not configured. -/
def default : CacheSettings where
  provider := "local"
  capacity := defaultCapacity
  ttl := none
  cleanupInterval := some 60000

/-- The time between two sweeps, if there are sweeps. -/
def sweepInterval (settings : CacheSettings) : Option Nat :=
  settings.cleanupInterval.filter (0 < ·)

/-- Read the settings under the cursor. -/
def decode (cursor : Source.Cursor) : Source.Decode CacheSettings := do
  let found ← cursor.record ["provider", "max_size", "ttl_ms", "cleanup_interval_ms"]
  return {
    provider := ← Source.Cursor.field found "provider" default.provider (·.text)
    capacity := ← Source.Cursor.field found "max_size" default.capacity (·.count)
    ttl := ← Source.Cursor.field found "ttl_ms" default.ttl (·.optional (·.count))
    cleanupInterval :=
      ← Source.Cursor.field found "cleanup_interval_ms" default.cleanupInterval
          (·.optional (·.count)) }

/-- The number of at most 64 bits that a text spells in decimal digits, with an optional plus
sign. -/
def numeral? (text : String) : Option Nat :=
  let digits :=
    match text.toList with
    | '+' :: cs => cs
    | cs => cs
  if digits.isEmpty || !digits.all Char.isDigit then none
  else
    let n := digits.foldl (fun n c => n * 10 + (c.toNat - 48)) 0
    if n < twoTo 64 then some n else none

/-- The number that a variable holds, the blank space around it aside. -/
def numberIn? (lookup : String → Option String) (name : String) : Option Nat :=
  (lookup name).bind fun raw => numeral? (Text.trim raw)

/-- The settings that the variables of an environment give, defaults where they give none. -/
def ofVariables (lookup : String → Option String) : CacheSettings where
  provider :=
    match (lookup "PROMPTCAT_CACHE_PROVIDER").map Text.trim with
    | some provider => if provider = "" then default.provider else provider
    | none => default.provider
  capacity := (numberIn? lookup "PROMPTCAT_CACHE_MAX_SIZE").getD default.capacity
  ttl := numberIn? lookup "PROMPTCAT_CACHE_TTL_MS" <|> default.ttl
  cleanupInterval :=
    numberIn? lookup "PROMPTCAT_CACHE_CLEANUP_INTERVAL_MS" <|> default.cleanupInterval

end CacheSettings

/-- The settings of a catalog. -/
structure CatalogSettings where
  /-- The content root, as it is written. -/
  contentRoot : Option String
  /-- How long a directory listing is kept, in milliseconds. -/
  listingTtl : Nat
  /-- How many directory listings are kept. -/
  listingCapacity : Nat
  deriving DecidableEq, Repr

namespace CatalogSettings

/-- The settings of a catalog that is not configured. -/
def default : CatalogSettings where
  contentRoot := none
  listingTtl := 5000
  listingCapacity := 512

/-- Read the settings under the cursor. -/
def decode (cursor : Source.Cursor) : Source.Decode CatalogSettings := do
  let found ← cursor.record ["content_root", "scan_cache_ttl_ms", "scan_cache_max_size"]
  return {
    contentRoot := ← Source.Cursor.field found "content_root" none (·.optional (·.text))
    listingTtl := ← Source.Cursor.field found "scan_cache_ttl_ms" default.listingTtl (·.count)
    listingCapacity :=
      ← Source.Cursor.field found "scan_cache_max_size" default.listingCapacity (·.count) }

/-- The settings of the cache of directory listings: its backend is that of the other cache, its
sizes are those of the catalog. -/
def listingCache (catalog : CatalogSettings) (cache : CacheSettings) : CacheSettings where
  provider := cache.provider
  capacity := catalog.listingCapacity
  ttl := some catalog.listingTtl
  cleanupInterval := some catalog.listingTtl

end CatalogSettings

/-- All settings. -/
structure Settings where
  /-- The settings of the cache. -/
  cache : CacheSettings
  /-- The settings of the catalog. -/
  catalog : CatalogSettings
  deriving DecidableEq, Repr

namespace Settings

/-- The settings when nothing is configured. -/
def default : Settings where
  cache := .default
  catalog := .default

/-- Read the settings under the cursor. -/
def decode (cursor : Source.Cursor) : Source.Decode Settings := do
  let found ← cursor.record ["cache", "catalog"]
  return {
    cache := ← Source.Cursor.field found "cache" .default CacheSettings.decode
    catalog := ← Source.Cursor.field found "catalog" .default CatalogSettings.decode }

/-- The settings that a text in YAML holds. -/
def parse? (text : String) : Option Settings :=
  Source.read? .yaml decode text

/-- The message about settings that could not be read. The words of the parser come after it, which
depend on the text alone. -/
def malformedMessage : String :=
  "Invalid promptcat config YAML"

end Settings

end TemplateCatalog
