import TemplateCatalog.Cache.Provider
import TemplateCatalog.Catalog.Build
import TemplateCatalog.Catalog.Fault
import TemplateCatalog.Catalog.Listings
import TemplateCatalog.Catalog.Repository

/-!
# The catalog service

A service publishes one generation at a time. A load builds a new generation beside the published
one and puts it in its place as a whole; a load that fails leaves everything published as it is.
Loads go one at a time: whoever comes while another load goes on is turned away.
-/

namespace TemplateCatalog

/-- A service that publishes a catalog. -/
structure Service where
  /-- How long a listing is remembered, in milliseconds. -/
  listingTtl : Nat
  /-- The generation that is published. -/
  published : Generation
  /-- The remembered listings. -/
  listings : Listings
  /-- A load is going on. -/
  loading : Bool

namespace Service

/-- A service with a cache for its listings. -/
def start (listingTtl : Nat) (options : CacheOptions) (hosted : Bool) : Service where
  listingTtl
  published := .empty
  listings := .start options hosted
  loading := false

/-- A service with the given settings. -/
def ofCatalogSettings (settings : CatalogSettings) (hosted : Bool) : Service :=
  .start settings.listingTtl
    { capacity := settings.listingCapacity
      defaultTtl := some settings.listingTtl
      sweepInterval := some settings.listingTtl }
    hosted

/-- A service with the given settings, whose listings are kept in the best cache there is for
them. -/
def ofSettings (settings : Settings) (hosted : Bool) : Except CacheBuildError Service := do
  let options ← (settings.catalog.listingCache settings.cache).buildBestEffort
  return .start settings.catalog.listingTtl options hosted

/-! ### Loading -/

/-- Scan the content tree at a location. -/
def scan (fs : FileSystem) (listingTtl : Nat) (root : Location) :
    StateM Listings (Except CatalogFault Findings) := do
  match fs.stat root.path with
  | .error cause => return .error (.contentRoot root.path cause)
  | .ok node =>
    if node.isDirectory then
      match ← Scan.scan (Listings.list fs listingTtl) root with
      | .error cause => return .error (.contentRoot root.path cause)
      | .ok findings => return .ok findings
    else return .error (.notADirectory root.path)

/-- Where a content root is. -/
def resolve (fs : FileSystem) (path : Path) : Except CatalogFault Location :=
  (fs.canonicalize path).mapError (.contentRoot path)

/-- Scan the content tree that a path leads to and load what is found. -/
def build (fs : FileSystem) (path : Path) (service : Service) :
    Except CatalogFault Build × Service :=
  match resolve fs path with
  | .error fault => (.error fault, service)
  | .ok root =>
    let (findings, listings) := scan fs service.listingTtl root service.listings
    (findings.map (Build.ofFindings fs), { service with listings })

/-- Publish a generation in place of the present one. -/
def publish (build : Build) (service : Service) : LoadReport × Service :=
  let number := service.published.number + 1
  (build.report number, { service with published := build.generation number })

/-- Build a generation and publish it. -/
def cycle (fs : FileSystem) (path : Path) (service : Service) :
    Except CatalogFault LoadReport × Service :=
  match service.build fs path with
  | (.error fault, after) => (.error fault, after)
  | (.ok build, after) =>
    let (report, after) := after.publish build
    (.ok report, after)

/-- Forget the listings of the content tree that a path leads to, and load it anew. -/
def freshCycle (fs : FileSystem) (path : Path) (service : Service) :
    Except CatalogFault LoadReport × Service :=
  match resolve fs path with
  | .error fault => (.error fault, service)
  | .ok root =>
    let ((), listings) := Listings.forget root service.listings
    cycle fs root.path { service with listings }

/-- The service with a load going on, unless there is one already. -/
def enter? (service : Service) : Option Service :=
  if service.loading then none else some { service with loading := true }

/-- The service after a load. -/
def leave (service : Service) : Service :=
  { service with loading := false }

/-- Carry out a load while no other one can go on. -/
def alone (cycle : Service → Except CatalogFault LoadReport × Service) (service : Service) :
    Except CatalogFault LoadReport × Service :=
  match service.enter? with
  | none => (.error .loadInProgress, service)
  | some entered =>
    let (result, after) := cycle entered
    (result, after.leave)

/-- Load the content tree that a path leads to. Listings that are remembered are believed. -/
def load (fs : FileSystem) (path : Path) (service : Service) :
    Except CatalogFault LoadReport × Service :=
  service.alone (cycle fs path)

/-- Load the content tree that a path leads to, and believe no listing that is remembered. -/
def reload (fs : FileSystem) (path : Path) (service : Service) :
    Except CatalogFault LoadReport × Service :=
  service.alone (freshCycle fs path)

/-- Bring the content tree of a repository up to date and load it anew. -/
def syncAndReload (fs : FileSystem) (repository : Repository) (service : Service) :
    Except CatalogFault LoadReport × Service :=
  match repository.sync fs with
  | .error fault => (.error (.sync fault), service)
  | .ok () => service.reload fs repository.path

/-- Stop the sweeper of the listings. -/
def close (service : Service) : Service :=
  { service with listings := service.listings.close }

end Service

end TemplateCatalog
