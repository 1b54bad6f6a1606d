import TemplateCatalog.Template.Parts

/-!
# Operators

What the operators of expressions make of their operands. Truth values count as numbers; an
operation on integers whose result takes more than 128 bits fails; texts and lists can be joined
and repeated.

Main statement: `Operator.apply_differsFrom`, the two tests for sameness are opposites.
-/

namespace TemplateCatalog.Template

/-- An operator between two operands. -/
inductive Operator where
  /-- Sum, or one list or text after another. -/
  | add
  /-- Difference. -/
  | subtract
  /-- Product, or a text or list several times. -/
  | multiply
  /-- Quotient as a floating point number. -/
  | divide
  /-- Quotient without its fraction. -/
  | divideWhole
  /-- Remainder. -/
  | remainder
  /-- Power. -/
  | power
  /-- The texts of two values, one after the other. -/
  | concat
  /-- The values are the same. -/
  | sameAs
  /-- The values differ. -/
  | differsFrom
  /-- The first value stands before the second one. -/
  | less
  /-- The first value does not stand after the second one. -/
  | atMost
  /-- The first value stands after the second one. -/
  | greater
  /-- The first value does not stand before the second one. -/
  | atLeast
  /-- The first value is contained in the second one. -/
  | within
  deriving DecidableEq, Repr

namespace Value

/-- The integer as a value, if it takes at most 128 bits. -/
def ofInt (n : Int) : Except Fault Value :=
  if fitsInt n then .ok (.integer n) else .error .invalidOperation

/-- The result of an operation on two numbers. -/
def arithmetic (ints : Int → Int → Except Fault Value) (floats : Float → Float → Float)
    (a b : Value) : Except Fault Value :=
  match numbers? false a b with
  | some (.ints m n) => if fitsInt m && fitsInt n then ints m n else .error .invalidOperation
  | some (.floats x y) => .ok (.float (floats x y))
  | Option.none => .error .invalidOperation

/-- The power of an integer. Beyond an exponent of 128 only the powers of zero and one are small
enough, and they depend on whether the exponent is even alone. -/
def intPower (base exponent : Int) : Except Fault Value :=
  if exponent < 0 ∨ twoTo 32 ≤ exponent then .error .invalidOperation
  else if exponent ≤ 128 then ofInt (base.pow exponent.toNat)
  else if base.natAbs ≤ 1 then ofInt (base.pow (2 + exponent.toNat % 2))
  else .error .invalidOperation

/-- The number of times that a text or a list is to be repeated. -/
def times (count : Value) : Except Fault Nat :=
  match count.int? with
  | some n => if 0 ≤ n ∧ n < twoTo 64 then .ok n.toNat else .error .invalidOperation
  | Option.none => .error .invalidOperation

/-- Several copies of a list, one after the other. -/
def copies {α : Type} (count : Nat) (items : List α) : List α :=
  if items.isEmpty then [] else (List.replicate count items).flatten

/-- Several copies of a text, one after the other; `bits` bounds the digits of the binary number
of copies. -/
def textCopies : Nat → Nat → String → String
  | 0, _, _ => ""
  | bits + 1, count, s =>
    if count = 0 then ""
    else
      let half := textCopies bits (count / 2) s
      if count % 2 = 0 then half ++ half else half ++ half ++ s

/-- A repeated text takes at most this many bytes. -/
def repeatLimit : Nat :=
  100000000

/-- The text several times. -/
def repeatText (s : String) (count : Value) : Except Fault Value := do
  let count ← count.times
  if repeatLimit < s.utf8ByteSize * count then throw .invalidOperation
  return .ofString (if s.isEmpty then "" else textCopies 64 count s)

/-- A repeated list has at most this many items. -/
def repeatedItemLimit : Nat :=
  10000000

/-- The list several times. -/
def repeatList (form : ListForm) (items : List Value) (count : Value) : Except Fault Value := do
  let count ← count.times
  if form.kind = .stream then throw .invalidOperation
  if repeatedItemLimit < items.length * count then throw .invalidOperation
  return .list .derived (copies count items)

/-- The sum of two numbers, or two texts or lists one after the other. -/
def add : Value → Value → Except Fault Value
  | .list f as, .list g bs =>
    .ok (.list (if f.kind = .stream ∨ g.kind = .stream then .stream else .derived) (as ++ bs))
  | .text a _, .text b _ => .ok (.ofString (a ++ b))
  | a, b => arithmetic (fun m n => ofInt (m + n)) (· + ·) a b

/-- The product of two numbers, or a text or list several times. -/
def multiply : Value → Value → Except Fault Value
  | .text s _, count => repeatText s count
  | count, .text s _ => repeatText s count
  | .list form items, count => repeatList form items count
  | count, .list form items => repeatList form items count
  | a, b => arithmetic (fun m n => ofInt (m * n)) (· * ·) a b

/-- The quotient of two numbers as a floating point number. -/
def divide (a b : Value) : Except Fault Value :=
  match a.float? false, b.float? false with
  | some x, some y => .ok (.float (x / y))
  | _, _ => .error .invalidOperation

/-- An operation on integers that needs a divisor other than zero. -/
def divided (f : Int → Int → Int) (m n : Int) : Except Fault Value :=
  if n = 0 then .error .invalidOperation else ofInt (f m n)

/-- The value with the opposite sign. The smallest integer is out of reach: the number that it is
the opposite of stays as it is. -/
def negate : Value → Except Fault Value
  | .int n _ =>
    if n = twoTo 127 then .ok (.int n true)
    else if fitsInt n then ofInt (-n)
    else .error .invalidOperation
  | .float x => .ok (.float (-x))
  | _ => .error .invalidOperation

/-- Some part of a list is the given list. -/
def hasInfix {α : Type} [BEq α] (part : List α) : List α → Bool
  | [] => part.isEmpty
  | c :: cs => part.isPrefixOf (c :: cs) || hasInfix part cs

/-- The value is contained in the given text, list or mapping. -/
def isWithin (value : Value) : Value → Except Fault Bool
  | .undefined => .ok false
  | .text s _ => .ok (hasInfix value.toText.toList s.toList)
  | .list _ items => .ok (items.any (same · value))
  | .map form entries => .ok ((Value.map form entries).item? value).isSome
  | .function _ => .ok false
  | _ => .error .invalidOperation

end Value

/-- The result of an operator. -/
def Operator.apply (operator : Operator) (a b : Value) : Except Fault Value :=
  match operator with
  | .add => a.add b
  | .subtract => Value.arithmetic (fun m n => Value.ofInt (m - n)) (· - ·) a b
  | .multiply => a.multiply b
  | .divide => a.divide b
  | .divideWhole => Value.arithmetic (Value.divided (· / ·)) Decimal.floorQuotient a b
  | .remainder => Value.arithmetic (Value.divided (· % ·)) Decimal.remainder a b
  | .power => Value.arithmetic Value.intPower Float.pow a b
  | .concat => .ok (.ofString (a.toText ++ b.toText))
  | .sameAs => .ok (.bool (a.same b))
  | .differsFrom => .ok (.bool !(a.same b))
  | .less => .ok (.bool (a.order b == .lt))
  | .atMost => .ok (.bool (a.order b != .gt))
  | .greater => .ok (.bool (a.order b == .gt))
  | .atLeast => .ok (.bool (a.order b != .lt))
  | .within => (a.isWithin b).map .bool

/-- One test for sameness holds where the other one fails. -/
theorem Operator.apply_differsFrom (a b : Value) :
    Operator.differsFrom.apply a b = (Operator.sameAs.apply a b).map fun v => .bool !v.isTrue :=
  rfl

end TemplateCatalog.Template
