import TemplateCatalog.Catalog.Fault

/-!
# Repositories

Where a content tree comes from. A repository is asked to bring the tree up to date before it is
loaded; how it does that is its own affair.
-/

namespace TemplateCatalog

/-- The origin of a content tree. -/
structure Repository where
  /-- Where the content tree is. -/
  path : Path
  /-- Bring the content tree up to date, or say why that cannot be done. -/
  sync : FileSystem → Except SyncFault Unit

namespace Repository

/-- A content tree that is kept up to date by others: it only has to be there. -/
def localDirectory (path : Path) : Repository where
  path
  sync fs :=
    match fs.stat path with
    | .error .notFound => .error (.missingPath path)
    | .error cause => .error (.inaccessible path cause)
    | .ok node =>
      if node.isDirectory then .ok ()
      else .error (.failed (path.text ++ " is not a directory"))

/-- A content tree that cannot be brought up to date. -/
def unavailable (path : Path) (message : String) : Repository where
  path
  sync _ := .error (.failed message)

end Repository

end TemplateCatalog
