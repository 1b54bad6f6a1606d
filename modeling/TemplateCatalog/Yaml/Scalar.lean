import TemplateCatalog.Decimal.Reading
import TemplateCatalog.Power
import TemplateCatalog.Source.Node
import TemplateCatalog.Text.Digit
import TemplateCatalog.Yaml.Token

/-!
# The meaning of scalars

What a scalar answers to the questions of a record. Plain scalars are truth values, numbers or the
absent value if they are spelled so, and texts otherwise. A tag may insist on one of these; a tag
of the document's own makes a scalar the name of a variant.
-/

namespace TemplateCatalog.Yaml

open Source (Scalar Presence)

/-- The text is a spelling of the absent value. -/
def isNullText (text : String) : Bool :=
  ["null", "Null", "NULL", "~"].contains text

/-- The truth value that a text spells. -/
def boolOfText? (text : String) : Option Bool :=
  if ["true", "True", "TRUE"].contains text then some true
  else if ["false", "False", "FALSE"].contains text then some false
  else none

/-- The number that digits of a base spell. -/
def natOfDigits? (base : Nat) (digits : List Char) : Option Nat :=
  if digits.isEmpty then none
  else
    digits.foldlM
      (fun n c => (Text.hexDigit? c).bind fun d => if d < base then some (n * base + d) else none) 0

/-- The characters after a plus sign, if there is one. -/
def dropPlus : List Char → List Char
  | '+' :: cs => cs
  | cs => cs

/-- Digits with a leading zero, which spell a text and not a number. -/
def isZeroLed (cs : List Char) : Bool :=
  let digits :=
    match cs with
    | '-' :: cs | '+' :: cs => cs
    | cs => cs
  digits.head? == some '0' && 1 < digits.length && digits.all Char.isDigit

/-- The base that the characters announce, and the digits after that. -/
def announcedBase? : List Char → Option (Nat × List Char)
  | '0' :: 'x' :: cs => some (16, cs)
  | '0' :: 'o' :: cs => some (8, cs)
  | '0' :: 'b' :: cs => some (2, cs)
  | _ => none

/-- The natural number below a limit that the characters spell. -/
def natOfText? (limit : Nat) (cs : List Char) : Option Nat :=
  let digits := dropPlus cs
  let announced := (announcedBase? digits).bind fun (base, digits) => natOfDigits? base digits
  match announced.filter (· < limit) with
  | some n => some n
  | none => if isZeroLed cs then none else (natOfDigits? 10 digits).filter (· < limit)

/-- The negative number not below the negative of a limit that the characters spell. -/
def negativeOfText? (limit : Nat) (cs : List Char) : Option Int :=
  match cs with
  | '-' :: digits =>
    let announced := (announcedBase? digits).bind fun (base, digits) => natOfDigits? base digits
    let size :=
      match announced.filter (· ≤ limit) with
      | some n => some n
      | none => if isZeroLed cs then none else (natOfDigits? 10 digits).filter (· ≤ limit)
    size.map fun n => -(n : Int)
  | _ => none

/-- What an integer amounts to as an untyped value. -/
inductive IntegerReading where
  /-- The text spells no integer. -/
  | notOne
  /-- The text spells an integer that is too large to be a value. -/
  | tooLarge
  /-- The text spells an integer. -/
  | integer (n : Int)

/-- The integer that a text spells. -/
def integerOfText (text : String) : IntegerReading :=
  let cs := text.toList
  match natOfText? (twoTo 64) cs, negativeOfText? (twoTo 63) cs with
  | some n, _ => .integer n
  | none, some n => .integer n
  | none, none =>
    if (natOfText? (twoTo 128) cs).isSome || (negativeOfText? (twoTo 127) cs).isSome then .tooLarge
    else .notOne

/-- The parts of a decimal: the digits before and after the point, and the exponent. -/
structure DecimalText where
  /-- The digits, those after the point included. -/
  digits : List Char
  /-- How many of them stand after the point. -/
  places : Nat
  /-- The exponent. -/
  exponent : Int

/-- The exponent at the end of a decimal, after its mark. -/
def exponentOfText? (cs : List Char) : Option Int :=
  match cs with
  | '-' :: digits => (natOfDigits? 10 digits).map fun n => -(n : Int)
  | '+' :: digits => (natOfDigits? 10 digits).map Int.ofNat
  | digits => (natOfDigits? 10 digits).map Int.ofNat

/-- The decimal without a sign that the characters spell. -/
def decimalOfText? (cs : List Char) : Option DecimalText :=
  let whole := cs.takeWhile Char.isDigit
  let (fraction, rest) :=
    match cs.dropWhile Char.isDigit with
    | '.' :: cs => (cs.takeWhile Char.isDigit, cs.dropWhile Char.isDigit)
    | cs => ([], cs)
  if whole.isEmpty && fraction.isEmpty then none
  else
    match rest with
    | [] => some ⟨whole ++ fraction, fraction.length, 0⟩
    | mark :: cs =>
      if mark = 'e' || mark = 'E' then
        (exponentOfText? cs).map fun n => ⟨whole ++ fraction, fraction.length, n⟩
      else none

/-- The finite number that a decimal with a sign spells. -/
def floatOfDecimal? (cs : List Char) : Option Float :=
  let (negative, cs) :=
    match cs with
    | '-' :: cs => (true, cs)
    | '+' :: cs => (false, cs)
    | cs => (false, cs)
  (decimalOfText? cs).bind fun d =>
    let n := (natOfDigits? 10 d.digits).getD 0
    (Decimal.nearest? n (d.exponent - d.places)).map fun x => if negative then -x else x

/-- What a floating point number amounts to as an untyped value. -/
inductive FloatReading where
  /-- The text spells no floating point number. -/
  | notOne
  /-- The text spells an infinity or the number that is none, which no value can hold. -/
  | special
  /-- The text spells a finite number. -/
  | finite (x : Float)

/-- The floating point number that a text spells. -/
def floatOfText (text : String) : FloatReading :=
  let cs := text.toList
  let unsigned := dropPlus cs
  let doubleSign := unsigned.length ≠ cs.length && unsigned.head?.any fun c => c == '+' || c == '-'
  if doubleSign then .notOne
  else if [".inf", ".Inf", ".INF"].contains (String.ofList unsigned) ||
      ["-.inf", "-.Inf", "-.INF", ".nan", ".NaN", ".NAN"].contains text then .special
  else
    match floatOfDecimal? unsigned with
    | some x => .finite x
    | none => .notOne

/-- The value of a floating point number; those that no value can hold are absent. -/
def FloatReading.value? : FloatReading → Option Json.Value
  | .notOne => none
  | .special => some .null
  | .finite x => some (.number (.float x))

/-- The value of an integer. -/
def IntegerReading.value? : IntegerReading → Option Json.Value
  | .integer n => some (.number (.integer n))
  | _ => none

/-- The value of a plain scalar without a tag. -/
def plainValue (text : String) : Option Json.Value :=
  if text = "" || isNullText text then some .null
  else
    match boolOfText? text, integerOfText text with
    | some b, _ => some (.bool b)
    | none, .integer n => some (.number (.integer n))
    | none, .tooLarge => none
    | none, .notOne =>
      if isZeroLed text.toList then some (.string text)
      else some ((floatOfText text).value?.getD (.string text))

/-- The tag of truth values. -/
def boolTag : String := "tag:yaml.org,2002:bool"

/-- The tag of integers. -/
def intTag : String := "tag:yaml.org,2002:int"

/-- The tag of floating point numbers. -/
def floatTag : String := "tag:yaml.org,2002:float"

/-- The tag of the absent value. -/
def nullTag : String := "tag:yaml.org,2002:null"

/-- The name that a tag of the document's own gives, if it is one. -/
def ownTag? (tag : Option String) : Option String :=
  match tag.map String.toList with
  | some ['!'] => some "!"
  | some ('!' :: name) => some (String.ofList name)
  | _ => none

/-- The untyped value of a scalar. -/
def scalarValue (tag : Option String) (style : ScalarStyle) (text : String) :
    Option Json.Value :=
  if (ownTag? tag).isSome then none
  else
    match tag with
    | none => if style = .plain then plainValue text else some (.string text)
    | some tag =>
      if tag = boolTag then (boolOfText? text).map .bool
      else if tag = intTag then (integerOfText text).value?
      else if tag = floatTag then (floatOfText text).value?
      else if tag = nullTag then if isNullText text then some .null else none
      else some (.string text)

/-- Whether a scalar counts as a value. -/
def scalarPresence (tag : Option String) (style : ScalarStyle) (text : String) : Presence :=
  if style ≠ .plain then .present
  else
    match tag with
    | none => if text = "" || isNullText text then .absent else .present
    | some tag =>
      if tag = nullTag then if isNullText text then .absent else .malformed else .present

/-- What a scalar answers to the questions of a record. -/
def scalarOf (tag : Option String) (style : ScalarStyle) (text : String) : Scalar :=
  let insists (name : String) : Bool :=
    style == .plain || (style == .literal && tag == some name)
  { text := some text
    flag := if insists boolTag then boolOfText? text else none
    count := if insists intTag then natOfText? (twoTo 64) text.toList else none
    presence := scalarPresence tag style text
    value := scalarValue tag style text
    variant :=
      match ownTag? tag with
      | some name => if style = .plain && (text = "" || isNullText text) then some name else none
      | none => some text
    blank := style == .plain && text == "" }

end TemplateCatalog.Yaml
