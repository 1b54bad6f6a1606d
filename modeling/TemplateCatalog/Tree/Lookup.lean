import TemplateCatalog.Tree.Basic

/-!
# Looking into the file tree

What a path leads to. Links are followed wherever they stand, at most forty of them on one path; a
slash at the end of a path insists on a directory.
-/

namespace TemplateCatalog

/-- How many links one path may lead through. -/
def linkLimit : Nat :=
  40

/-- The most bytes that a name may have. -/
def nameLimit : Nat :=
  255

/-- The most bytes that a path may have. -/
def pathLimit : Nat :=
  4095

/-- A file tree seen from a working directory. -/
structure FileSystem where
  /-- The tree. -/
  tree : Tree
  /-- The working directory. -/
  cwd : Location

namespace FileSystem

/-- What stands at a location. -/
def node? (fs : FileSystem) (location : Location) : Option Tree :=
  fs.tree.at? location.names

/-- Follow the parts of a path from a location on. Every link that is followed uses up one of the
links that are left. -/
def walk (fs : FileSystem) (links : Nat) (location : Location) (parts : List String) :
    Except IoError Location :=
  match parts with
  | [] => .ok location
  | part :: rest =>
    match fs.node? location with
    | some (.directory _ children) =>
      if part = "" ∨ part = "." then walk fs links location rest
      else if part = ".." then walk fs links location.parent rest
      else if nameLimit < part.utf8ByteSize then .error .nameTooLong
      else
        match children.lookup part with
        | none => .error .notFound
        | some (.link target) =>
          match links with
          | 0 => .error .tooManyLinks
          | links + 1 =>
            let start := if target.isAbsolute then .top else location
            walk fs links start (target.parts ++ rest)
        | some _ => walk fs links (location.child part) rest
    | some _ => .error .notADirectory
    | none => .error .notFound
termination_by (links, parts.length)

/-- Where a path leads to. -/
def canonicalize (fs : FileSystem) (path : Path) : Except IoError Location :=
  if path.text.toList.contains '\x00' then .error .nulInPath
  else if path.text = "" then .error .notFound
  else if pathLimit < path.text.utf8ByteSize then .error .nameTooLong
  else fs.walk linkLimit (if path.isAbsolute then .top else fs.cwd) path.parts

/-- What a path leads to. -/
def stat (fs : FileSystem) (path : Path) : Except IoError Tree := do
  match fs.node? (← fs.canonicalize path) with
  | some tree => .ok tree
  | none => .error .notFound

/-- The path leads to something. -/
def pathExists (fs : FileSystem) (path : Path) : Bool :=
  (fs.canonicalize path).isOk

/-- The children of the directory that a path leads to. -/
def readDirectory (fs : FileSystem) (path : Path) : Except IoError (List (String × Tree)) := do
  match ← fs.stat path with
  | .directory true children => .ok children
  | .directory false _ => .error .permissionDenied
  | _ => .error .notADirectory

/-- The text of the file that a path leads to. -/
def readText (fs : FileSystem) (path : Path) : Except IoError String := do
  match ← fs.stat path with
  | .file true bytes =>
    match String.fromUTF8? bytes with
    | some text => .ok text
    | none => .error .notText
  | .file false _ => .error .permissionDenied
  | .special => .error .noDevice
  | _ => .error .isADirectory

end FileSystem

end TemplateCatalog
