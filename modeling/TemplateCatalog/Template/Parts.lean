import TemplateCatalog.Template.Fault
import TemplateCatalog.Template.Order

/-!
# Parts of values

What values are made of: their length, the items that a loop over them meets, single items and
attributes, and slices.

Main statements:

* `length?_eq`: a value that has a length is as long as its items are many.
* `backwards_length`: a slice backwards has as many places as are asked for.
-/

namespace TemplateCatalog.Template.Value

/-- The length of a text, a list or a mapping. -/
def length? : Value → Option Nat
  | .text s _ => some s.length
  | .list form items => if form.kind = .stream then Option.none else some items.length
  | .map _ entries => some entries.length
  | _ => Option.none

/-- The items that a loop over the value meets: the characters of a text, the items of a list, the
keys of a mapping, and nothing for a value that is not there. -/
def items? : Value → Option (List Value)
  | .undefined | .none => some []
  | .text s _ => some (s.toList.map fun c => .ofString (String.singleton c))
  | .list _ items => some items
  | .map _ entries => some (entries.map Prod.fst)
  | _ => Option.none

/-- A loop over the value knows from the start how many items it meets. -/
def hasKnownItems : Value → Bool
  | .text s _ => s.isEmpty
  | .list form _ => form.kind != .stream
  | _ => true

/-- The items of a value, which a fault stands for if there are none to speak of. -/
def items (value : Value) : Except Fault (List Value) :=
  match value.items? with
  | some items => .ok items
  | Option.none => .error .invalidOperation

/-- The value, unless it could not be made. -/
def sound (value : Value) : Except Fault Value :=
  match value with
  | .broken _ => .error .invalidOperation
  | value => .ok value

/-- The position that an index means among `length` many; a negative index counts from the end, if
it is known where that is. -/
def position? (index : Int) (length : Option Nat) : Option Nat :=
  if 0 ≤ index then some index.toNat
  else length.bind fun length =>
    if index.natAbs ≤ length then some (length - index.natAbs) else Option.none

/-- The attribute of a group under a name. -/
def groupAttribute? (name : String) (items : List Value) : Option Value :=
  match name with
  | "grouper" => items[0]?
  | "list" => items[1]?
  | _ => Option.none

/-- The item of a value under a key or at an index. -/
def item? (value key : Value) : Option Value :=
  match value with
  | .map _ entries => Entries.find? key entries
  | .list form items =>
    match key.int? with
    | some index => (position? index (Value.list form items).length?).bind (items[·]?)
    | Option.none =>
      if form.kind = .group then key.text?.bind (groupAttribute? · items) else Option.none
  | .text s _ =>
    let cs := s.toList
    (key.int?.bind (position? · (some cs.length))).bind fun i =>
      cs[i]?.map fun c => .ofString (String.singleton c)
  | _ => Option.none

/-- The attribute of a value under a name. -/
def attribute? (name : String) (value : Value) : Option Value :=
  value.item? (.ofString name)

/-- What a look-up gives: a value under no key is undefined, but an undefined value has no keys. -/
def found (value : Value) (found : Option Value) : Except Fault Value :=
  match found, value with
  | some item, _ => item.sound
  | Option.none, .undefined => .error .undefinedValue
  | Option.none, _ => .ok .undefined

/-- The index that a part of a path is, if it is one; a plus may stand in front. -/
def pathIndex? (part : String) : Option Nat :=
  let digits :=
    match part.toList with
    | '+' :: cs => cs
    | cs => cs
  if digits.all Char.isDigit then
    (String.ofList digits).toNat?.filter (· < twoTo 64)
  else Option.none

/-- The value at the end of a path of keys, separated by dots. -/
def along (value : Value) (path : String) : Except Fault Value :=
  (path.splitOn ".").foldlM (fun value part =>
    let key : Value :=
      match pathIndex? part with
      | some n => .nat n
      | Option.none => .ofString part
    value.found (value.item? key)) value

/-- The value in the opposite order. The keys of a mapping keep their order. -/
def reversed? : Value → Option Value
  | .undefined => some .undefined
  | .none => some .none
  | .text s safe => some (.text (String.ofList s.toList.reverse) safe)
  | .list _ items => some (.list .derived items.reverse)
  | .map form entries =>
    let keys := entries.map Prod.fst
    match form.kind with
    | .view _ _ => some (.list .derived keys.reverse)
    | _ => some (.list .derived keys)
  | _ => Option.none

/-! ### Slices -/

/-- The bound of a slice within `length` many places; a negative one counts from the end. -/
def forwardBound (length : Nat) (bound : Int) : Nat :=
  if bound < 0 then (length + bound).toNat else bound.toNat

/-- Every `step`-th item, counted from the first. -/
def every {α : Type} (step : Nat) (items : List α) : List α :=
  items.zipIdx.filterMap fun item => if item.2 % step = 0 then some item.1 else Option.none

/-- Places from a first one downwards, `step` apart. -/
def backwards (first step count : Nat) : List Nat :=
  (List.range count).map fun i => first - i * step

/-- A slice backwards has as many places as are asked for. -/
theorem backwards_length (first step count : Nat) :
    (backwards first step count).length = count := by
  simp [backwards]

/-- The places of a slice that goes backwards through `length` many, `step` apart. A slice that
stops at the first place includes it; any other one ends before its stop. -/
def backwardPlaces (start stop : Option Int) (step length : Nat) : List Nat :=
  let first := min (start.elim (length - 1) (forwardBound length)) (length - 1)
  let last := stop.elim 0 (forwardBound length)
  if length = 0 ∨ first < last then []
  else
    let distance := if last = 0 then first + step else first - last + step - 1
    backwards first step (distance / step)

/-- The slice of a list between two bounds, of whose items so many are known to be there. A
negative step goes backwards. -/
def sliceItems {α : Type} (start stop : Option Int) (step : Int) (length : Nat) (items : List α) :
    List α :=
  if 0 < step then
    let first := forwardBound length (start.getD 0)
    let last := forwardBound length (stop.getD length)
    every step.toNat ((items.take last).drop first)
  else (backwardPlaces start stop step.natAbs length).filterMap (items[·]?)

/-- A bound of a slice, if there is one. -/
def bound (value : Value) : Except Fault (Option Int) :=
  match value with
  | .none => .ok Option.none
  | value =>
    match value.int? with
    | some n =>
      if -twoTo 63 ≤ n ∧ n < twoTo 63 then .ok (some n) else .error .invalidOperation
    | Option.none => .error .invalidOperation

/-- The slice of a text or a list. A list that does not know its length counts as empty where the
end is asked for. -/
def slice (value start stop step : Value) : Except Fault Value := do
  let start ← start.bound
  let stop ← stop.bound
  let step := (← step.bound).getD 1
  if step = 0 then throw .invalidOperation
  match value with
  | .text s _ =>
    return .ofString (String.ofList (sliceItems start stop step s.length s.toList))
  | .list form items =>
    let length := (Value.list form items).length?.getD 0
    let part := sliceItems start stop step length items
    return .list (if form.kind = .stream && !part.isEmpty then .stream else .derived) part
  | .undefined | .none => return .ofList []
  | _ => throw .invalidOperation

/-- A value that has a length is as long as its items are many. -/
theorem length?_eq {value : Value} {n : Nat} (h : value.length? = some n) :
    value.items?.map List.length = some n := by
  cases value with
  | list form items =>
    simp only [length?] at h
    split at h
    · cases h
    · simpa [items?] using h
  | _ => simp_all [length?, items?, String.length_toList]

end TemplateCatalog.Template.Value
