import TemplateCatalog.Tree.Lookup

/-!
# Faults of a catalog

What ends a load as a whole. Problems of single sources are no faults; they are reported, and the
load goes on without the source.
-/

namespace TemplateCatalog

/-- Why a content tree could not be brought up to date. -/
inductive SyncFault where
  /-- There is nothing where the content tree should be. -/
  | missingPath (path : Path)
  /-- The source of the content tree failed. -/
  | failed (message : String)
  /-- The file system refused to look at the content tree. -/
  | inaccessible (path : Path) (cause : IoError)
  deriving DecidableEq, Repr

/-- The message about a content tree that could not be brought up to date. -/
def SyncFault.message : SyncFault → String
  | .missingPath path => "Repository path does not exist: " ++ path.text
  | .failed message => "Repository sync failed: " ++ message
  | .inaccessible path _ => "Repository I/O failure at " ++ path.text

/-- Why a load published nothing. -/
inductive CatalogFault where
  /-- The content root could not be read. -/
  | contentRoot (path : Path) (cause : IoError)
  /-- The content root is no directory. -/
  | notADirectory (path : Path)
  /-- Another load is going on. -/
  | loadInProgress
  /-- The content tree could not be brought up to date. -/
  | sync (fault : SyncFault)
  deriving DecidableEq, Repr

namespace CatalogFault

/-- The message about a load that published nothing. -/
def message : CatalogFault → String
  | .contentRoot path _ => "Failed to access content root: " ++ path.text
  | .notADirectory path => "Content root is not a directory: " ++ path.text
  | .loadInProgress =>
    "A catalog load is already in progress.\n\n" ++
      "Loads and reloads must be serialized; retry once the current cycle completes."
  | .sync fault => fault.message

/-- What the file system said, if it is to blame. -/
def cause? : CatalogFault → Option IoError
  | .contentRoot _ cause => some cause
  | .sync (.inaccessible _ cause) => some cause
  | _ => none

end CatalogFault

end TemplateCatalog
