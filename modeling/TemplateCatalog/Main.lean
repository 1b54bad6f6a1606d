import Std.Time.Format
import TemplateCatalog.CommandLine.Program
import TemplateCatalog.Tree.Edit

/-!
# The program on a real machine

The outermost layer of the program. It takes up from the disk what a call can look at, as a file
tree, hands that to `CommandLine.run`, and prints what comes back.

What is taken up: the settings file, and the directory tree of the content root without its hidden
files. Files that cannot be read and directories that cannot be listed are marked so.
-/

namespace TemplateCatalog.Disk

/-- What a step gives, or nothing if it fails. -/
def succeeding? {α : Type} (step : IO α) : IO (Option α) := do
  try return some (← step) catch _ => return none

/-- What stands at a location of the disk, links not followed. -/
def kindAt? (location : Location) : IO (Option IO.FS.FileType) := do
  let kind? ← succeeding? do
    return (← ((← IO.currentDir) / location.text).symlinkMetadata).type
  return kind?

/-- The location that a location on the disk leads to. -/
def target? (location : Location) : IO (Option Location) := do
  let path? ← succeeding? (IO.FS.realPath location.text)
  return path?.map fun path => ⟨((Path.mk path.toString).parts.filter (· ≠ ""))⟩

/-- The file at a location of the disk. -/
def file (location : Location) : IO Tree := do
  match ← succeeding? (IO.FS.readBinFile location.text) with
  | some bytes => return .file true bytes
  | none => return .file false .empty

/-- The children of a directory on the disk, hidden ones left out. A link to a file counts as the
file, and other links are left out. -/
def children (below : Location → IO Tree) (directory : Location) (names : List String) :
    IO (List (String × Tree)) := do
  let visible := names.filter fun name => !isHiddenName name
  let found ← visible.mapM fun name => do
    let location := directory.child name
    match ← kindAt? location with
    | some .dir => return some (name, ← below location)
    | some .file => return some (name, ← file location)
    | some .symlink =>
      match ← target? location with
      | none => return none
      | some target =>
        match ← kindAt? target with
        | some .file => return some (name, ← file target)
        | _ => return none
    | _ => return none
  return found.filterMap id

/-- The directory at a location of the disk, with all directories at most so many levels below
it. -/
def directory : Nat → Location → IO Tree
  | 0, _ => return .empty
  | levels + 1, location => do
    match ← succeeding? ((← IO.currentDir) / location.text).readDir with
    | none => return .directory false []
    | some entries =>
      let names := entries.toList.map IO.FS.DirEntry.fileName
      return .directory true (← children (directory levels) location names)

/-- Put a tree at a location. -/
def graft (location : Location) (tree : Tree) (fs : FileSystem) : FileSystem :=
  (fs.makeDirectory location.path).1.edit location fun _ => some tree

/-- Take up what the parts of a path lead to from a location on: the links on the way and, at its
end, the file or so many levels of the directory. At most `links` links are followed. -/
def follow (levels : Nat) (links : Nat) (location : Location) (parts : List String)
    (fs : FileSystem) : IO FileSystem := do
  match parts with
  | [] =>
    match ← kindAt? location with
    | some .dir =>
      let known := fs.node? location
      if levels = 0 && known.isSome then return fs
      return graft location (← directory levels location) fs
    | some .file => return graft location (← file location) fs
    | _ => return fs
  | part :: parts =>
    if part = "" ∨ part = "." then follow levels links location parts fs
    else if part = ".." then follow levels links location.parent parts fs
    else
      let next := location.child part
      match ← kindAt? next with
      | some .symlink =>
        match links, ← target? next with
        | links + 1, some target =>
          follow levels links .top (target.names ++ parts) (fs.makeLink next.path target.path)
        | _, _ => return fs
      | some .dir => follow levels links next parts (fs.makeDirectory next.path).1
      | some .file => follow levels links next parts fs
      | _ => return fs
termination_by (links, parts.length)

/-- Take up what a path leads to, so many levels of it if it is a directory. -/
def takeUp (levels : Nat) (path : Path) (fs : FileSystem) : IO FileSystem :=
  follow levels linkLimit (if path.isAbsolute then .top else fs.cwd) path.parts fs

/-- The present moment. -/
def now : IO String := do
  let moment := Std.Time.DateTime.ofTimestamp (← Std.Time.Timestamp.now) .UTC
  return moment.toPlainDateTime.toLeanDateTimeString ++ "Z"

/-- What a call finds on the disk. The settings file is taken up twice, because it tells where the
content root is and may lie within it. -/
def host (invocation : CommandLine.Invocation) : IO CommandLine.Host := do
  let cwd : Location := ⟨(Path.mk (← IO.currentDir).toString).parts.filter (· ≠ "")⟩
  let config := invocation.config.getD CommandLine.defaultConfig
  let start := ((FileSystem.mk .empty .top).makeDirectory cwd.path).1
  let fs ← takeUp 0 config { start with cwd }
  match CommandLine.settingsFor fs invocation.config with
  | .error _ => return ⟨fs, ← now⟩
  | .ok settings =>
    let root := CommandLine.rootFor settings invocation.root
    let fs ← takeUp 0 config (← takeUp pathLimit root { start with cwd })
    return ⟨(fs.makeDirectory cwd.path).1, ← now⟩

end TemplateCatalog.Disk

open TemplateCatalog in
/-- Carry out a command line on this machine. -/
def main (words : List String) : IO UInt32 := do
  let host ←
    match CommandLine.Invocation.ofWords words with
    | .ok invocation => Disk.host invocation
    | .error _ => pure ⟨⟨.empty, .top⟩, ← Disk.now⟩
  let outcome := CommandLine.run host words
  IO.print outcome.output
  IO.eprint outcome.errors
  return outcome.status.toUInt32
