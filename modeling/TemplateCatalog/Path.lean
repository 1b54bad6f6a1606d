/-!
# Paths and locations

A path is a text that names a file or a directory the way a user writes it. A location is where a
file or a directory really is: the names that lead to it from the top of the file tree, without
links and detours. Locations are ordered by their names, one after the other.

Main statements:

* `isWithin_self`, `isWithin_child`: a location lies within itself, and so does all below it.
-/

namespace TemplateCatalog

/-- The parts of a text between slashes. -/
def slashParts : List Char → List (List Char)
  | [] => [[]]
  | c :: cs =>
    if c = '/' then [] :: slashParts cs
    else
      match slashParts cs with
      | part :: parts => (c :: part) :: parts
      | [] => [[c]]

/-- The name before its last dot, and the extension after it. A dot at the start does not count,
and the name of the parent directory has no extension. -/
def splitExtension (name : String) : String × Option String :=
  let reversed := name.toList.reverse
  let extension := reversed.takeWhile (· ≠ '.')
  let stem := (reversed.dropWhile (· ≠ '.')).drop 1
  if name = ".." ∨ stem.isEmpty then (name, none)
  else (String.ofList stem.reverse, some (String.ofList extension.reverse))

/-- A path as it is written. -/
structure Path where
  /-- The text of the path. -/
  text : String
  deriving DecidableEq, Repr, Inhabited

/-- A step of a path. -/
inductive PathStep where
  /-- To the top of the file tree. -/
  | top
  /-- To the directory where the path starts. -/
  | here
  /-- To the parent directory. -/
  | up
  /-- To a child. -/
  | child (name : String)
  deriving DecidableEq, Repr

namespace Path

/-- The path starts at the top of the file tree. -/
def isAbsolute (path : Path) : Bool :=
  path.text.toList.head? == some '/'

/-- The parts of the path between slashes, empty ones included. -/
def parts (path : Path) : List String :=
  (slashParts path.text.toList).map String.ofList

/-- The steps of the path. Empty parts are no steps, nor are dots behind the start. -/
def steps (path : Path) : List PathStep :=
  let inner := path.parts.filterMap fun part =>
    if part = "" ∨ part = "." then none
    else if part = ".." then some .up
    else some (.child part)
  if path.isAbsolute then .top :: inner
  else if path.parts.head? = some "." then .here :: inner
  else inner

/-- The two paths take the same steps. -/
def sameSteps (a b : Path) : Bool :=
  a.steps == b.steps

/-- The path that leads on from this one. -/
def join (path : Path) (next : Path) : Path :=
  if next.isAbsolute then next
  else if path.text = "" ∨ path.text.toList.getLast? = some '/' then ⟨path.text ++ next.text⟩
  else ⟨path.text ++ "/" ++ next.text⟩

/-- The name that the path ends in. -/
def name? (path : Path) : Option String :=
  match path.steps.getLast? with
  | some (.child name) => some name
  | _ => none

/-- The name that the path ends in without its extension, or else the whole path. -/
def stem (path : Path) : String :=
  match path.name? with
  | some name => (splitExtension name).1
  | none => path.text

end Path

/-- A place in the file tree. -/
structure Location where
  /-- The names that lead to the place from the top. -/
  names : List String
  deriving DecidableEq, Repr, Inhabited

namespace Location

/-- The top of the file tree. -/
def top : Location :=
  ⟨[]⟩

/-- The place of a child. -/
def child (location : Location) (name : String) : Location :=
  ⟨location.names ++ [name]⟩

/-- The place of the parent; the top is its own parent. -/
def parent (location : Location) : Location :=
  ⟨location.names.dropLast⟩

/-- The text of the location. -/
def text (location : Location) : String :=
  if location.names.isEmpty then "/" else String.join (location.names.map fun name => "/" ++ name)

/-- The location as a path. -/
def path (location : Location) : Path :=
  ⟨location.text⟩

/-- The name of the place, or the text of the location at the top. -/
def name (location : Location) : String :=
  location.names.getLast?.getD location.text

/-- The name of the place without its extension. -/
def stem (location : Location) : String :=
  (splitExtension location.name).1

/-- The extension of the name of the place. -/
def extension? (location : Location) : Option String :=
  (splitExtension location.name).2

/-- The location is the given one or lies below it. -/
def isWithin (outer : Location) (location : Location) : Bool :=
  outer.names.isPrefixOf location.names

/-- The names of the first list come before those of the second, or the lists are the same. -/
def namesLe : List String → List String → Bool
  | [], _ => true
  | _ :: _, [] => false
  | a :: as, b :: bs => a < b || (a == b && namesLe as bs)

/-- The order of locations. -/
def le (a b : Location) : Bool :=
  namesLe a.names b.names

/-- Locations in ascending order. -/
def sort (locations : List Location) : List Location :=
  locations.mergeSort le

/-- A location lies within itself. -/
theorem isWithin_self (location : Location) : location.isWithin location = true := by
  simp [isWithin]

/-- What lies within a location lies there with all below it. -/
theorem isWithin_child {outer location : Location} (name : String)
    (within : outer.isWithin location = true) : outer.isWithin (location.child name) = true := by
  simp only [isWithin, child, List.isPrefixOf_iff_prefix] at *
  exact within.trans (List.prefix_append _ _)

end Location

end TemplateCatalog
