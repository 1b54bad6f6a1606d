import TemplateCatalog.Path

/-!
# The file tree

A file system at one moment, as a value: files with their bytes, directories with their children,
symbolic links, and special files. What may not be read is marked so. Everything the catalog learns
about its sources it learns by looking into such a tree.

Main statements:

* `at?_append`: a location is reached by reaching its parts one after the other.
-/

namespace TemplateCatalog

/-- A file tree. -/
inductive Tree where
  /-- A file, whether it may be read, and its bytes. -/
  | file (readable : Bool) (bytes : ByteArray)
  /-- A directory, whether it may be listed, and its children by name. -/
  | directory (readable : Bool) (children : List (String × Tree))
  /-- A symbolic link. -/
  | link (target : Path)
  /-- A special file, such as a socket, which holds no bytes. -/
  | special
  deriving Inhabited

/-- Why the file system refuses an operation. -/
inductive IoError where
  /-- There is nothing at the path. -/
  | notFound
  /-- A path leads through something that is no directory. -/
  | notADirectory
  /-- A directory is there in place of a file. -/
  | isADirectory
  /-- The path leads through too many links. -/
  | tooManyLinks
  /-- A name is too long. -/
  | nameTooLong
  /-- The file or directory may not be read. -/
  | permissionDenied
  /-- A special file cannot be opened. -/
  | noDevice
  /-- The path holds a character that no name can hold. -/
  | nulInPath
  /-- The bytes of a file are no text. -/
  | notText
  deriving DecidableEq, Repr

/-- The message about a refusal. -/
def IoError.message : IoError → String
  | .notFound => "No such file or directory (os error 2)"
  | .notADirectory => "Not a directory (os error 20)"
  | .isADirectory => "Is a directory (os error 21)"
  | .tooManyLinks => "Too many levels of symbolic links (os error 40)"
  | .nameTooLong => "File name too long (os error 36)"
  | .permissionDenied => "Permission denied (os error 13)"
  | .noDevice => "No such device or address (os error 6)"
  | .nulInPath => "file name contained an unexpected NUL byte"
  | .notText => "stream did not contain valid UTF-8"

namespace Tree

/-- The empty directory. -/
def empty : Tree :=
  .directory true []

/-- The child of a directory with the given name. -/
def child? (name : String) : Tree → Option Tree
  | .directory _ children => children.lookup name
  | _ => none

/-- The tree is a directory. -/
def isDirectory : Tree → Bool
  | .directory .. => true
  | _ => false

/-- The tree is a file. -/
def isFile : Tree → Bool
  | .file .. => true
  | _ => false

/-- What stands at the end of a chain of names, links not followed. -/
def at? : List String → Tree → Option Tree
  | [], tree => some tree
  | name :: names, tree => (tree.child? name).bind (at? names)

/-- A chain of names is followed by following its parts. -/
theorem at?_append (names more : List String) (tree : Tree) :
    at? (names ++ more) tree = (at? names tree).bind (at? more) := by
  induction names generalizing tree with
  | nil => rfl
  | cons name names ih =>
    simp only [List.cons_append, at?]
    cases tree.child? name with
    | none => rfl
    | some child => exact ih child

end Tree

end TemplateCatalog
