import TemplateCatalog.Tree.Lookup

/-!
# Changing the file tree

Writing files, making directories and links, and removing things. Missing directories on the way
are made; files are written through links. What cannot be done leaves the tree as it is.
-/

namespace TemplateCatalog

namespace Tree

/-- Change the child of the given name in a list of children. -/
def editChildren (name : String) (edit : Option Tree → Option Tree) :
    List (String × Tree) → List (String × Tree)
  | [] => ((edit none).map (name, ·)).toList
  | (other, child) :: children =>
    if other = name then ((edit (some child)).map (name, ·)).toList ++ children
    else (other, child) :: editChildren name edit children

/-- Change what stands at the end of a chain of names. -/
def editAt (edit : Option Tree → Option Tree) : List String → Tree → Tree
  | [], tree => (edit (some tree)).getD tree
  | [name], .directory readable children => .directory readable (editChildren name edit children)
  | name :: names, .directory readable children =>
    .directory readable (editChildren name (·.map (editAt edit names)) children)
  | _, tree => tree

end Tree

namespace FileSystem

/-- Change what stands at a location. -/
def edit (fs : FileSystem) (location : Location) (change : Option Tree → Option Tree) :
    FileSystem :=
  { fs with tree := fs.tree.editAt change location.names }

/-- Follow the parts of a path, making directories where there is nothing. -/
def makeParts (fs : FileSystem) (location : Location) : List String → FileSystem × Location
  | [] => (fs, location)
  | part :: parts =>
    match fs.walk linkLimit location [part] with
    | .ok next => makeParts fs next parts
    | .error _ =>
      makeParts (fs.edit (location.child part) fun old => old <|> some .empty)
        (location.child part) parts

/-- Make the directory of a path, with all directories on the way. -/
def makeDirectory (fs : FileSystem) (path : Path) : FileSystem × Location :=
  fs.makeParts (if path.isAbsolute then .top else fs.cwd) path.parts

/-- The directory that the last name of a path stands in, and the name. The directory is made if
it is not there. -/
def makeParent (fs : FileSystem) (path : Path) : FileSystem × Location × String :=
  let parts := path.parts.filter fun part => part ≠ "" ∧ part ≠ "."
  let start := if path.isAbsolute then .top else fs.cwd
  let (fs, parent) := fs.makeParts start parts.dropLast
  (fs, parent, parts.getLast?.getD ".")

/-- Write a file, through links if there are any on the way, of which at most so many are
followed. -/
def writeThrough (fs : FileSystem) (bytes : ByteArray) : (links : Nat) → Path → FileSystem
  | 0, _ => fs
  | links + 1, path =>
    let (fs, parent, name) := fs.makeParent path
    match fs.node? (parent.child name) with
    | some (.link target) =>
      writeThrough fs bytes links (if target.isAbsolute then target else parent.path.join target)
    | some (.directory ..) | some .special => fs
    | _ => fs.edit (parent.child name) fun _ => some (.file true bytes)

/-- Write a file. -/
def write (fs : FileSystem) (path : Path) (bytes : ByteArray) : FileSystem :=
  fs.writeThrough bytes (linkLimit + 1) path

/-- Make a symbolic link, unless something is there already. -/
def makeLink (fs : FileSystem) (path target : Path) : FileSystem :=
  let (fs, parent, name) := fs.makeParent path
  fs.edit (parent.child name) fun old => old <|> some (.link target)

/-- Remove what a path names: a file, a link or a whole directory. -/
def remove (fs : FileSystem) (path : Path) : FileSystem :=
  let parts := path.parts.filter fun part => part ≠ "" ∧ part ≠ "."
  match fs.walk linkLimit (if path.isAbsolute then .top else fs.cwd) parts.dropLast with
  | .ok parent => fs.edit (parent.child (parts.getLast?.getD ".")) fun _ => none
  | .error _ => fs

end FileSystem

end TemplateCatalog
