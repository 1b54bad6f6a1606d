import TemplateCatalog.Decimal.Exact
import TemplateCatalog.Template.Value

/-!
# Sameness and order of values

When two values are the same, and how values stand to each other. Values stand in the order of
their kinds; values of one kind are compared by what they hold. Sameness does not ask for the kind
where truth values and numbers are compared as numbers.

Main statements:

* `order_text`: texts stand in the order of their characters.
* `order_of_rank_lt`: what is of an earlier kind stands before what is of a later one.
-/

namespace TemplateCatalog.Template

/-- Two operands as numbers of one kind. -/
inductive Numbers where
  /-- Two integers. -/
  | ints (m n : Int)
  /-- Two floating point numbers. -/
  | floats (x y : Float)

/-- Integers take 128 bits. -/
def fitsInt (n : Int) : Bool :=
  -twoTo 127 ≤ n && n < twoTo 127

/-- How two floating point numbers stand to each other; what is no number stands behind all
numbers. -/
def orderFloats (x y : Float) : Ordering :=
  if x < y then .lt
  else if y < x then .gt
  else if x.isNaN == y.isNaN then .eq
  else if y.isNaN then .lt
  else .gt

/-- How an integer stands to a floating point number. -/
def orderIntFloat (n : Int) (x : Float) : Ordering :=
  if x.isNaN then .lt
  else if x.isInf then (if 0 < x then .lt else .gt)
  else compare n (Decimal.wholePart x)

/-- The two lists are one and the same. -/
def ListForm.isOne (a b : ListForm) : Bool :=
  a.mark.isSome && a.mark == b.mark

/-- The two mappings are one and the same. -/
def MapForm.isOne (a b : MapForm) : Bool :=
  match a.kind, b.kind with
  | .view r _, .view s _ => r == s
  | _, _ => a.mark.isSome && a.mark == b.mark

namespace Value

/-- The largest integer that takes no more space than the given one. -/
def largest (n : Int) (unsigned : Bool) : Int :=
  if unsigned then (if n < twoTo 64 then twoTo 64 - 1 else twoTo 128 - 1)
  else if n < twoTo 63 then twoTo 63 - 1
  else twoTo 127 - 1

/-- The value as a floating point number; with `exact`, only if nothing of an integer is lost,
except that the largest integers count as the power of two above them. -/
def float? (exact : Bool) : Value → Option Float
  | .bool b => some (if b then 1 else 0)
  | .int n unsigned =>
    let x := Float.ofInt n
    if exact && !Decimal.isExactly x n && n != largest n unsigned then Option.none else some x
  | .float x => some x
  | _ => Option.none

/-- The value as an integer, unless it is a floating point number. -/
def whole? : Value → Option Int
  | .bool b => some (if b then 1 else 0)
  | .int n _ => some n
  | _ => Option.none

/-- The two values as numbers of one kind; with `exact`, only if nothing of an integer is lost. -/
def numbers? (exact : Bool) : Value → Value → Option Numbers
  | .float x, b => (b.float? exact).map (.floats x)
  | a, .float y => (a.float? exact).map (.floats · y)
  | a, b =>
    match a.whole?, b.whole? with
    | some m, some n => some (.ints m n)
    | _, _ => Option.none

/-- How two values of one kind that hold no other values stand to each other. -/
def orderSimple (a b : Value) : Ordering :=
  match numbers? true a b, a, b with
  | some (.ints m n), _, _ => compare m n
  | some (.floats x y), _, _ => orderFloats x y
  | Option.none, .int n _, .float y => orderIntFloat n y
  | Option.none, .float x, .int n _ => (orderIntFloat n x).swap
  | Option.none, _, _ => .eq

mutual

/-- The two values are the same. -/
def same : Value → Value → Bool
  | .undefined, .undefined => true
  | .none, .none => true
  | .text a _, .text b _ => a == b
  | .list f as, .list g bs => f.isOne g || sameItems as bs
  | .map f as, .map g bs => f.isOne g || sameEntries as bs
  | .reference a, .reference b => a == b
  | .function a, .function b => a == b
  | a, b =>
    match numbers? true a b with
    | some (.ints m n) => m == n
    | some (.floats x y) => x == y
    | Option.none => false

/-- The two lists hold the same values in the same order. -/
def sameItems : List Value → List Value → Bool
  | [], [] => true
  | a :: as, b :: bs => same a b && sameItems as bs
  | _, _ => false

/-- The two lists hold the same entries in the same order. -/
def sameEntries : List (Value × Value) → List (Value × Value) → Bool
  | [], [] => true
  | (k, a) :: as, (l, b) :: bs => k.kind == l.kind && same k l && same a b && sameEntries as bs
  | _, _ => false

end

/-- The order of the kinds of two values. -/
def kindOrder (a b : Value) : Ordering :=
  compare a.kind.rank b.kind.rank

mutual

/-- How two values stand to each other. -/
def order : Value → Value → Ordering
  | .text a _, .text b _ => compare a b
  | .list f as, .list g bs =>
    (kindOrder (.list f as) (.list g bs)).then (if f.isOne g then .eq else orderItems as bs)
  | .map f as, .map g bs => if f.isOne g then .eq else orderEntries as bs
  | .function a, .function b => compare a b
  | a, b => (kindOrder a b).then (orderSimple a b)

/-- How two lists stand to each other: by the first place where they differ. -/
def orderItems : List Value → List Value → Ordering
  | [], [] => .eq
  | [], _ :: _ => .lt
  | _ :: _, [] => .gt
  | a :: as, b :: bs => (order a b).then (orderItems as bs)

/-- How the entries of two mappings stand to each other. -/
def orderEntries : List (Value × Value) → List (Value × Value) → Ordering
  | [], [] => .eq
  | [], _ :: _ => .lt
  | _ :: _, [] => .gt
  | (k, a) :: as, (l, b) :: bs => ((order k l).then (order a b)).then (orderEntries as bs)

end

/-- Texts stand in the order of their characters. -/
theorem order_text (a b : String) (safe safe' : Bool) :
    order (.text a safe) (.text b safe') = compare a b := by
  simp [order]

/-- What is of an earlier kind stands before what is of a later one. -/
theorem order_of_rank_lt {a b : Value} (h : a.kind.rank < b.kind.rank) : order a b = .lt := by
  have first : kindOrder a b = .lt := Nat.compare_eq_lt.2 h
  unfold order
  split
  · simp [kind] at h
  · simp [first, Ordering.then]
  · simp [kind] at h
  · simp [kind] at h
  · simp [first, Ordering.then]

end Value

/-- The entries of mappings, kept in ascending order of their keys. -/
abbrev Entries : Type :=
  List (Value × Value)

namespace Entries

/-- The value under a key. -/
def find? (key : Value) (entries : Entries) : Option Value :=
  (List.find? (fun entry => Value.order key entry.1 == .eq) entries).map Prod.snd

/-- Put a value under a key, in place of the one that stood there. -/
def insert (key value : Value) : Entries → Entries
  | [] => [(key, value)]
  | (other, old) :: rest =>
    match Value.order key other with
    | .lt => (key, value) :: (other, old) :: rest
    | .eq => (other, value) :: rest
    | .gt => (other, old) :: insert key value rest

/-- Entries from pairs in any order; of two pairs with one key the later one counts. -/
def ofPairs (pairs : List (Value × Value)) : Entries :=
  pairs.foldl (fun entries pair => entries.insert pair.1 pair.2) []

end Entries

end TemplateCatalog.Template
