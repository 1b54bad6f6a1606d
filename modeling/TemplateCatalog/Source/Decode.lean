import TemplateCatalog.Source.Format
import TemplateCatalog.Source.Node

/-!
# Decoding source documents

Records ask a source document for their fields. A decoder walks the document with a bound on the
nesting it enters and a budget of references it may follow, so a document that refers to itself
ends in a failure. There is one kind of failure: the document does not describe the record.

The two notations differ in what they accept for a record: JSON also takes a list of the field
values in their declared order, and a variant may be written as an object with one absent field.
-/

namespace TemplateCatalog.Source

/-- A document as it was read. -/
structure Document where
  /-- The notation it was written in. -/
  format : Format
  /-- The node at the top. -/
  root : Node
  /-- The nodes that anchors mark. -/
  anchors : List (Nat × Node)
  /-- How many references a decoder may follow. -/
  references : Nat

/-- How deep lists and mappings may be nested in the parts of a document that are decoded. -/
def Document.depth (document : Document) : Nat :=
  match document.format with
  | .yaml => 128
  | .json => 127

/-- A decoder, which sees the document and counts down the references that are left. -/
abbrev Decode (α : Type) : Type :=
  ReaderT Document (StateT Nat Option) α

/-- A node, and how much further nesting may be entered from it. -/
structure Cursor where
  /-- The node. -/
  node : Node
  /-- The nesting that is left. -/
  depth : Nat

namespace Decode

/-- The decoder that fails. -/
def fail {α : Type} : Decode α :=
  fun _ _ => none

/-- The decoder that succeeds if there is a result. -/
def ofOption {α : Type} : Option α → Decode α
  | some a => pure a
  | none => fail

/-- The node that a reference stands for; any other node itself. -/
def follow : Node → Decode Node
  | .reference anchor => do
    let document ← read
    let budget ← get
    match budget, document.anchors.lookup anchor with
    | budget + 1, some node =>
      set budget
      pure node
    | _, _ => fail
  | node => pure node

/-- The scalar at a node. -/
def scalar (node : Node) : Decode Scalar := do
  match ← follow node with
  | .scalar s => pure s
  | _ => fail

/-- The text at a node. -/
def textAt (node : Node) : Decode String := do
  ofOption (← scalar node).text

/-- The untyped value at a node, entering at most the given nesting. -/
def valueAt : Nat → Node → Decode Json.Value
  | 0, node => do ofOption (← scalar node).value
  | depth + 1, node => do
    match ← follow node with
    | .scalar s => ofOption s.value
    | .sequence false items => return .array (← items.mapM (valueAt depth))
    | .mapping false entries =>
      let pairs ← entries.mapM fun entry => do
        let name ← textAt entry.1
        return (name, ← valueAt depth entry.2)
      return Json.Value.ofPairs pairs
    | _ => fail

end Decode

namespace Cursor

open Decode

/-- The text under the cursor. -/
def text (cursor : Cursor) : Decode String :=
  textAt cursor.node

/-- The truth value under the cursor. -/
def flag (cursor : Cursor) : Decode Bool := do
  ofOption (← scalar cursor.node).flag

/-- The natural number of 64 bits under the cursor. -/
def count (cursor : Cursor) : Decode Nat := do
  ofOption (← scalar cursor.node).count

/-- The untyped value under the cursor. -/
def value (cursor : Cursor) : Decode Json.Value :=
  valueAt cursor.depth cursor.node

/-- What `decode` finds under the cursor, unless the absent value stands there. -/
def optional {α : Type} (decode : Cursor → Decode α) (cursor : Cursor) : Decode (Option α) := do
  let node ← follow cursor.node
  match node with
  | .scalar s =>
    match s.presence with
    | .absent => pure none
    | .malformed => fail
    | .present => some <$> decode ⟨node, cursor.depth⟩
  | _ => some <$> decode ⟨node, cursor.depth⟩

/-- The entries of the mapping under the cursor, each with its name. -/
def entries (cursor : Cursor) : Decode (List (String × Cursor)) := do
  match ← follow cursor.node, cursor.depth with
  | .mapping _ pairs, depth + 1 =>
    pairs.mapM fun pair => return (← textAt pair.1, ⟨pair.2, depth⟩)
  | .scalar s, _ => if s.blank then pure [] else fail
  | _, _ => fail

/-- The fields of the mapping under the cursor, each read by `decode`. -/
def fields {α : Type} (decode : Cursor → Decode α) (cursor : Cursor) : Decode (Fields α) := do
  let pairs ← (← cursor.entries).mapM fun entry => return (entry.1, ← decode entry.2)
  return Fields.ofPairs pairs

/-- The one of several named variants that the node under the cursor names. -/
def variant {α : Type} (named? : String → Option α) (cursor : Cursor) : Decode α := do
  match ← follow cursor.node, cursor.depth, (← read).format with
  | .scalar s, _, _ => ofOption (s.variant.bind named?)
  | .mapping _ [(name, content)], _ + 1, .json =>
    match content with
    | .scalar s => if s.presence = .absent then ofOption ((← textAt name) |> named?) else fail
    | _ => fail
  | _, _, _ => fail

/-- The known fields of the record under the cursor, each with its place. Unknown names are passed
over, and a known name may stand there only once. -/
def record (names : List String) (cursor : Cursor) (canonical : String → String := id) :
    Decode (List (String × Cursor)) := do
  match ← follow cursor.node, cursor.depth, (← read).format with
  | .sequence _ items, depth + 1, .json =>
    if items.length ≤ names.length then
      pure (names.zip (items.map fun item => ⟨item, depth⟩))
    else fail
  | node, depth, _ =>
    let found ← Cursor.entries ⟨node, depth⟩
    let known := (found.map fun entry => (canonical entry.1, entry.2)).filter
      fun entry => names.contains entry.1
    if (known.map Prod.fst).Nodup then pure known else fail

/-- The field of a record, or the value it has when it is left out. -/
def field {α : Type} (found : List (String × Cursor)) (name : String) (fallback : α)
    (decode : Cursor → Decode α) : Decode α :=
  match found.lookup name with
  | some cursor => decode cursor
  | none => pure fallback

end Cursor

/-- Decode the whole of a document. -/
def Document.decode {α : Type} (document : Document) (decode : Cursor → Decode α) : Option α :=
  ((decode ⟨document.root, document.depth⟩).run document |>.run document.references).map Prod.fst

/-- The untyped value of a document. -/
def Document.value? (document : Document) : Option Json.Value :=
  document.decode Cursor.value

/-- A document that holds an untyped value. -/
def Document.ofValue (value : Json.Value) : Document where
  format := .json
  root := Node.ofValue value
  anchors := []
  references := 0

end TemplateCatalog.Source
