import TemplateCatalog.Template.Arguments
import TemplateCatalog.Template.Operator
import TemplateCatalog.Text.Blank
import TemplateCatalog.Text.LetterCase
import Std.Data.TreeSet

/-!
# Filters on collections

Filters that select, order and group the items of their subject.

Main statements:

* `sortBy_perm`: sorting keeps the items.
* `batches_flatten`: the batches of a list hold its items in order.
-/

namespace TemplateCatalog.Template.Filter

/-- How two values stand to each other where texts may be compared without regard to case. -/
def orderFolded (caseSensitive : Bool) (a b : Value) : Ordering :=
  match caseSensitive, a, b with
  | false, .text s _, .text t _ => compare (Text.asciiLower s) (Text.asciiLower t)
  | _, a, b => a.order b

/-- Order a list; items that stand alike keep their order. -/
def sortBy {α : Type} (order : α → α → Ordering) (items : List α) : List α :=
  items.mergeSort fun a b => order a b != .gt

/-- Sorting keeps the items. -/
theorem sortBy_perm {α : Type} (order : α → α → Ordering) (items : List α) :
    (sortBy order items).Perm items :=
  List.mergeSort_perm ..

/-- The first item that no other item stands before, and likewise the last one that none stands
after. -/
def extremes (items : List Value) : Value × Value :=
  match items with
  | [] => (.undefined, .undefined)
  | first :: rest =>
    rest.foldl (fun found item =>
      (if item.order found.1 == .lt then item else found.1,
        if item.order found.2 == .lt then found.2 else item)) (first, first)

/-- The items in batches of a size, the last one of which may be smaller. -/
def batches {α : Type} (size : Nat) (items : List α) : List (List α) :=
  match items with
  | [] => []
  | item :: rest =>
    (item :: rest.take (size - 1)) :: batches size (rest.drop (size - 1))
termination_by items.length
decreasing_by
  simp only [List.length_drop, List.length_cons]
  omega

/-- The batches of a list hold its items in order. -/
theorem batches_flatten {α : Type} (size : Nat) (items : List α) :
    (batches size items).flatten = items := by
  fun_induction batches size items with
  | case1 => rfl
  | case2 item rest ih => simp [ih, List.take_append_drop]

/-- The items in so many slices that differ in length by at most one, the longer ones first. -/
def slices {α : Type} (count : Nat) (items : List α) : List (List α) :=
  let size := items.length / count
  let longer := items.length % count
  (List.range count).map fun i =>
    let first := i * size + min i longer
    let last := (i + 1) * size + min (i + 1) longer
    (items.take last).drop first

/-- The value at the end of an optional path of keys. -/
def keyOf (path : Option String) (item : Value) : Except Fault Value :=
  match path with
  | some path => item.along path
  | none => .ok item

/-- The paths in a text, separated by commas. -/
def pathsIn (s : String) : List String :=
  (s.splitOn ",").map Text.trim

/-- How two items stand to each other by the first path at whose end they differ; items of which
one has nothing to look up stand alike. -/
def orderAlong (caseSensitive : Bool) (paths : List String) (a b : Value) : Ordering :=
  paths.foldl (fun found path => found.then <|
    match a.along path, b.along path with
    | .ok a, .ok b => orderFolded caseSensitive a b
    | _, _ => .eq) .eq

/-- The order, or the opposite one. -/
def directed {α : Type} (reverse : Bool) (order : α → α → Ordering) (a b : α) : Ordering :=
  if reverse then order b a else order a b

/-- The items in order, by attributes if they are given. -/
def sort : Taking Value := do
  let options ← Taking.named
  let items ← Taking.only Value.items
  let caseSensitive := (← liftM (options.option? "case_sensitive" Value.asBool)).getD false
  let paths ← liftM (options.option? "attribute" Value.asText)
  let reverse := (← liftM (options.option? "reverse" Value.asBool)).getD false
  let order :=
    match paths with
    | some paths => orderAlong caseSensitive (pathsIn paths)
    | none => orderFolded caseSensitive
  liftM (options.allow ["case_sensitive", "attribute", "reverse"])
  return .ofList (sortBy (directed reverse order) items)

/-- A key and its value as a list. -/
def pair (entry : Value × Value) : Value :=
  .ofList [entry.1, entry.2]

/-- The entries of a mapping. -/
def entriesOf : Value → Except Fault Entries
  | .map _ entries => .ok entries
  | _ => .error .invalidOperation

/-- The entries of a mapping in order of their keys or values. -/
def sortEntries : Taking Value := do
  let options ← Taking.named
  let entries ← Taking.only entriesOf
  let byValue := (← liftM (options.option? "by" Value.asText)) = some "value"
  let caseSensitive := (← liftM (options.option? "case_sensitive" Value.asBool)).getD false
  let reverse := (← liftM (options.option? "reverse" Value.asBool)).getD false
  let part (entry : Value × Value) : Value := if byValue then entry.2 else entry.1
  let order (a b : Value × Value) : Ordering := orderFolded caseSensitive (part a) (part b)
  liftM (options.allow ["by", "case_sensitive", "reverse"])
  return .ofList ((sortBy (directed reverse order) entries).map pair)

/-- The items in batches. -/
def batch : Taking Value := do
  let subject ← Taking.value
  let size ← Taking.converted Value.asCount
  let filler ← Taking.optional .ok
  Taking.done
  if size = 0 then throw .invalidOperation
  let filled (part : List Value) : List Value :=
    match filler with
    | some filler => part ++ List.replicate (size - part.length) filler
    | none => part
  return .ofList ((batches size (← liftM subject.items)).map fun part => .ofList (filled part))

/-- The items in slices; a shorter slice is filled up if a filler is given. -/
def slice : Taking Value := do
  let subject ← Taking.value
  let count ← Taking.converted Value.asCount
  let filler ← Taking.optional .ok
  Taking.done
  if count = 0 then throw .invalidOperation
  let items ← liftM subject.items
  let longer := items.length % count
  return .ofList ((slices count items).zipIdx.map fun (part, i) =>
    match filler with
    | some filler => if longer ≤ i then .ofList (part ++ [filler]) else .ofList part
    | none => .ofList part)

/-- The value at the end of a path, or a default where there is none. -/
def keyOr (default : Value) (path : String) (item : Value) : Value :=
  match item.along path with
  | .ok .undefined | .error _ => default
  | .ok key => key

/-- The first item for every key; texts are compared without regard to case unless asked for. -/
def unique : Taking Value := do
  let options ← Taking.named
  let subject ← Taking.value
  Taking.done
  let path ← liftM (options.option? "attribute" Value.asText)
  let caseSensitive := (← liftM (options.option? "case_sensitive" Value.asBool)).getD false
  liftM (options.allow ["attribute", "case_sensitive"])
  let fold (key : Value) : Value :=
    match caseSensitive, key with
    | false, .text s _ => .ofString (Text.lower s)
    | _, key => key
  let (found, _) := (← liftM subject.items).foldl (fun (found, keys) item =>
    let key := fold (path.elim item (keyOr .undefined · item))
    let (known, keys) := keys.containsThenInsert key
    (if known then found else item :: found, keys))
    (([], ∅) : List Value × Std.TreeSet Value Value.order)
  return .ofList found.reverse

/-- Neighbours with one key in one group, which goes by the key of the last of them. -/
def groupNeighbours (sameKey : Value → Value → Bool) (key : Value → Value) :
    List Value → List (Value × List Value)
  | [] => []
  | item :: items =>
    match groupNeighbours sameKey key items with
    | (other, group) :: groups =>
      if sameKey (key item) other then (other, item :: group) :: groups
      else (key item, [item]) :: (other, group) :: groups
    | [] => [(key item, [item])]

/-- The items in groups with one key, in order of the keys. -/
def groupBy : Taking Value := do
  let options ← Taking.named
  let subject ← Taking.value
  let attribute? ← Taking.optional Value.asText
  Taking.done
  let default := (← liftM (options.option? "default" .ok)).getD .undefined
  let caseSensitive := (← liftM (options.option? "case_sensitive" Value.asBool)).getD false
  let path ←
    match attribute?, ← liftM (options.given? "attribute" Value.asText) with
    | some path, none => pure path
    | none, some path => pure path
    | some _, some _ => throw .tooManyArguments
    | none, none => throw .missingArgument
  liftM (options.allow ["default", "case_sensitive", "attribute"])
  let key := keyOr default path
  let sorted := sortBy (fun a b => orderFolded caseSensitive (key a) (key b))
    (← liftM subject.items)
  let sameKey (a b : Value) : Bool := orderFolded caseSensitive a b == .eq
  return .ofList ((groupNeighbours sameKey key sorted).map fun (key, group) =>
    .list .group [key, .list .derived group])

/-- The items of a value as members of a longer list: what has no items leaves a member that says
so. -/
def membersOf (value : Value) : List Value :=
  match value.items? with
  | some items => items
  | none => [.broken ("invalid operation: " ++ value.kind.name ++ " is not iterable")]

/-- The entries of the value if it is a mapping. -/
def entriesIn : Value → Entries
  | .map _ entries => entries
  | _ => []

/-- The items of several lists, one after the other, or one mapping of several. -/
def chain : Taking Value := do
  let values := (← Taking.value) :: (← Taking.rest)
  if values.all fun value => value.kind = .map then
    return .map .stored (Entries.ofPairs (values.flatMap entriesIn))
  else
    let form : ListForm := if values.all fun value => value.kind = .list then .stored else .stream
    return .list form (values.flatMap membersOf)

/-- The first items of several values, the second ones, and so on. -/
def zipItems : List (List Value) → List (List Value)
  | [] => []
  | [items] => items.map fun item => [item]
  | items :: others => List.zipWith (· :: ·) items (zipItems others)

/-- The value is a list or a mapping that knows how long it is. -/
def isMeasured : Value → Bool
  | .list form _ => form.kind != .stream
  | .map _ _ => true
  | _ => false

/-- The lists of the first items of several values, of the second ones, and so on. -/
def zip : Taking Value := do
  let values := (← Taking.value) :: (← Taking.rest)
  let lists ← values.mapM fun value => liftM value.items
  return .list (if values.all isMeasured then .derived else .stream)
    ((zipItems lists).map .ofList)

/-- The sum of the items, which are numbers. -/
def sum : Taking Value := do
  let items ← Taking.only Value.items
  items.foldlM (fun total item =>
    if item.isUndefined then pure total
    else if item.kind ≠ .number then throw .invalidOperation
    else liftM (total.add item)) (.integer 0)

/-- The first item. -/
def first (value : Value) : Except Fault Value :=
  match value with
  | .text _ _ | .list _ _ | .map _ _ => value.items.map fun items => items.headD .undefined
  | _ => .error .invalidOperation

/-- The last item; that of a safe text is safe. -/
def last (value : Value) : Except Fault Value :=
  match value with
  | .text s safe =>
    .ok ((s.toList.getLast?).elim .undefined fun c => .text (String.singleton c) safe)
  | .list _ items => .ok (items.getLastD .undefined)
  | _ => .error .invalidOperation

/-- The value in the opposite order. -/
def reversed (value : Value) : Except Fault Value :=
  match value.reversed? with
  | some reversed => .ok reversed
  | none => .error .invalidOperation

/-- The length of the value. -/
def length (value : Value) : Except Fault Value :=
  match value.length? with
  | some n => .ok (.nat n)
  | none => .error .invalidOperation

/-- The subject, or a default for an undefined one; on demand also for one that counts as false. -/
def default : Taking Value := do
  let subject ← Taking.value
  let other := (← Taking.next?).getD (.ofString "")
  let lax := (← Taking.next?).any Value.isTrue
  return if subject.isUndefined || (lax && !subject.isTrue) then other else subject

/-- The filter on collections under a name. -/
def collection? (name : String) : Option (Taking Value) :=
  match name with
  | "default" | "d" => some default
  | "length" | "count" => some (Taking.only length)
  | "first" => some (Taking.only first)
  | "last" => some (Taking.only last)
  | "reverse" => some (Taking.only reversed)
  | "sort" => some sort
  | "dictsort" => some sortEntries
  | "items" => some do
    return .list .derived ((← Taking.only entriesOf).map pair)
  | "list" => some do
    return .ofList (← Taking.only Value.items)
  | "bool" => some do
    return .bool (← Taking.value).isTrue
  | "min" => some do
    return (extremes (← Taking.only Value.items)).1
  | "max" => some do
    return (extremes (← Taking.only Value.items)).2
  | "sum" => some sum
  | "batch" => some batch
  | "slice" => some slice
  | "unique" => some unique
  | "groupby" => some groupBy
  | "chain" => some chain
  | "zip" => some zip
  | "attr" => some do
    let subject ← Taking.value
    let key ← Taking.value
    Taking.done
    liftM (subject.found (subject.item? key))
  | _ => none

end TemplateCatalog.Template.Filter
