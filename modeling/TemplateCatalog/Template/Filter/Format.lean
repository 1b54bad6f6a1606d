import TemplateCatalog.Decimal.Places
import TemplateCatalog.Template.Arguments
import TemplateCatalog.Template.Escaping
import TemplateCatalog.Text.Digit

/-!
# Formats

The filter that fills values into a text. A percent sign starts a conversion: a name in round
brackets, flags, a width, a precision, and the letter of what the value is written as, most of
which may be left out.

Main statement: `pieces_of_plain`, a text without percent signs is written as it is.
-/

namespace TemplateCatalog.Template.Filter

/-- How a value is filled in. -/
structure Conversion where
  /-- The name of the value, unless it is the next one. -/
  key : Option String
  /-- The flags. -/
  flags : List Char
  /-- How many characters are written at least. -/
  width : Nat
  /-- The number of digits or characters. -/
  precision : Option Nat
  /-- What the value is written as. -/
  letter : Char

/-- A part of a format. -/
inductive Piece where
  /-- A text. -/
  | text (cs : List Char)
  /-- A value. -/
  | conversion (conversion : Conversion)

/-- The flags of conversions. -/
def conversionFlags : List Char :=
  ['-', '+', ' ', '0', '#']

/-- The letters of conversions. -/
def conversionLetters : List Char :=
  "diouxXeEfFgGcrsa%".toList

/-- Widths and precisions are at most this large. -/
def widthLimit : Nat :=
  100000

/-- The number in front of a list of characters, if there is a digit and the number is not too
large, and what follows it. -/
def splitWidth (cs : List Char) : Option Nat × List Char :=
  let digits := cs.takeWhile Char.isDigit
  (if digits.isEmpty then some 0 else Text.digits? 10 digits |>.filter (· ≤ widthLimit),
    cs.drop digits.length)

/-- The name in round brackets in front of a list of characters, if there is one, and what follows
it. -/
def splitKey (cs : List Char) : Option String × List Char :=
  match cs with
  | '(' :: rest =>
    (some (String.ofList (rest.takeWhile (· ≠ ')'))), (rest.dropWhile (· ≠ ')')).drop 1)
  | cs => (none, cs)

/-- The conversion behind a percent sign, and what follows it. -/
def splitConversion (cs : List Char) : Option (Conversion × List Char) := do
  let (key, cs) := splitKey cs
  let flags := cs.takeWhile conversionFlags.contains
  let (width?, cs) := splitWidth (cs.drop flags.length)
  let (precision?, cs) :=
    match cs with
    | '.' :: cs =>
      let (precision?, cs) := splitWidth cs
      (precision?.map some, cs)
    | cs => (some none, cs)
  match cs with
  | letter :: cs =>
    if conversionLetters.contains letter then
      return ({ key, flags, width := ← width?, precision := ← precision?, letter }, cs)
    else none
  | [] => none

/-- The parts of a format. Each step takes at least one character, so as many steps as there are
characters, and one for the end, are enough. -/
def piecesFrom : Nat → List Char → Option (List Piece)
  | 0, _ => none
  | _ + 1, [] => some []
  | steps + 1, '%' :: cs => do
    let (conversion, cs) ← splitConversion cs
    return .conversion conversion :: (← piecesFrom steps cs)
  | steps + 1, c :: cs => do
    let text := c :: cs.takeWhile (· != '%')
    return .text text :: (← piecesFrom steps (cs.dropWhile (· != '%')))

/-- The parts of a format. -/
def pieces? (s : String) : Option (List Piece) :=
  piecesFrom (s.toList.length + 1) s.toList

/-- A text without percent signs is written as it is. -/
theorem pieces_of_plain {s : String} (full : s.toList ≠ []) (plain : '%' ∉ s.toList) :
    pieces? s = some [.text s.toList] := by
  simp only [pieces?]
  generalize s.toList = cs at full plain ⊢
  cases cs with
  | nil => exact absurd rfl full
  | cons c cs =>
    have others : '%' ∉ cs := fun member => plain (List.mem_cons_of_mem c member)
    have split : cs.takeWhile (· != '%') = cs ∧ cs.dropWhile (· != '%') = [] := by
      clear full plain
      induction cs with
      | nil => exact ⟨rfl, rfl⟩
      | cons d cs ih =>
        have head : d ≠ '%' := fun eq => others (by simp [eq])
        have tail := ih fun member => others (List.mem_cons_of_mem d member)
        simp [head, tail]
    rw [piecesFrom]
    · simp [piecesFrom, split]
    · exact fun eq => plain (by simp [eq])

/-! ### Values -/

/-- The conversion has a flag. -/
def Conversion.has (flag : Char) (conversion : Conversion) : Bool :=
  conversion.flags.contains flag

/-- The text with blanks at one side up to the width. -/
def Conversion.pad (conversion : Conversion) (s : String) : String :=
  let blanks := String.ofList (List.replicate (conversion.width - s.length) ' ')
  if conversion.has '-' then s ++ blanks else blanks ++ s

/-- A number with its sign, what stands in front of its digits, and its digits. -/
def Conversion.number (conversion : Conversion) (negative : Bool) (lead digits : String) :
    String :=
  let sign :=
    if negative then "-"
    else if conversion.has '+' then "+"
    else if conversion.has ' ' then " "
    else ""
  let lead := sign ++ lead
  let room := conversion.width - lead.length
  if conversion.has '0' && !conversion.has '-' then
    lead ++ Decimal.zeros (room - digits.length) ++ digits
  else conversion.pad (lead ++ digits)

/-- The base that an integer is written in. -/
def Conversion.base (conversion : Conversion) : Nat :=
  match conversion.letter with
  | 'o' => 8
  | 'x' | 'X' => 16
  | _ => 10

/-- An integer. -/
def Conversion.integer (conversion : Conversion) (n : Int) : String :=
  let digits := String.ofList (Nat.toDigits conversion.base n.natAbs)
  let digits := Decimal.zeros (conversion.precision.getD 0 - digits.length) ++ digits
  let lead :=
    if !conversion.has '#' then ""
    else
      match conversion.letter with
      | 'o' => "0o"
      | 'x' => "0x"
      | 'X' => "0X"
      | _ => ""
  conversion.number (n < 0) lead (if conversion.letter = 'X' then digits.toUpper else digits)

/-- A floating point number. -/
def Conversion.float (conversion : Conversion) (x : Float) : String :=
  let places := conversion.precision.getD 6
  let size :=
    if x.isNaN then "nan"
    else if x.isInf then "inf"
    else
      match conversion.letter.toLower with
      | 'e' => Decimal.scientificText places x
      | 'f' => Decimal.fixedText places x
      | _ => Decimal.generalText places (conversion.has '#') x
  let size := if conversion.letter.isUpper then size.toUpper else size
  let conversion :=
    if x.isFinite then conversion
    else { conversion with flags := conversion.flags.filter (· ≠ '0') }
  conversion.number (!x.isNaN && Decimal.isNegative x) "" size

/-- The integer that a value is written as; a fraction is dropped where decimals are written. -/
def Conversion.asInteger (conversion : Conversion) (value : Value) : Except Fault Int :=
  match value with
  | .float x =>
    if conversion.base = 10 ∧ x.isFinite then .ok (Decimal.wholePart x)
    else .error .invalidOperation
  | value =>
    match value.whole? with
    | some n => .ok n
    | none => .error .invalidOperation

/-- The character that a value is. -/
def asCharacter (value : Value) : Except Fault String :=
  match value with
  | .text s _ => if s.length = 1 then .ok s else .error .invalidOperation
  | .int n _ =>
    if 0 ≤ n ∧ n.toNat.isValidChar then .ok (String.singleton (Char.ofNat n.toNat))
    else .error .invalidOperation
  | _ => .error .invalidOperation

/-- The text of a value, which may be cut. -/
def Conversion.shown (conversion : Conversion) (s : String) : String :=
  match conversion.precision with
  | some precision => conversion.pad (String.ofList (s.toList.take precision))
  | none => conversion.pad s

/-- What a conversion writes for a value; `escape` is applied to texts. -/
def Conversion.write (conversion : Conversion) (escape : Value → String) (value : Value) :
    Except Fault String :=
  match conversion.letter with
  | 's' => .ok (conversion.shown (escape value))
  | 'r' | 'a' => .ok (conversion.shown (escape (.ofString value.nestedText)))
  | 'c' => (asCharacter value).map conversion.pad
  | 'd' | 'i' | 'u' | 'o' | 'x' | 'X' => (conversion.asInteger value).map conversion.integer
  | _ =>
    match value.float? false with
    | some x => .ok (conversion.float x)
    | none => .error .invalidOperation

/-- The value under a name, which the only argument has to have. -/
def namedValue (key : String) (arguments : List Value) : Except Fault Value :=
  match arguments with
  | [.map _ entries] =>
    match Entries.find? (.ofString key) entries with
    | some value => .ok value
    | none => .error .invalidOperation
  | _ => .error .invalidOperation

/-- The text of a format, whose unnamed values are the ones that are left. -/
def fill (escape : Value → String) (arguments : List Value) :
    List Value → List Piece → Except Fault String
  | _, [] => .ok ""
  | left, .text cs :: pieces => do
    return String.ofList cs ++ (← fill escape arguments left pieces)
  | left, .conversion conversion :: pieces => do
    if conversion.letter = '%' then return "%" ++ (← fill escape arguments left pieces)
    else
      match conversion.key, left with
      | some key, left =>
        let s ← conversion.write escape (← namedValue key arguments)
        return s ++ (← fill escape arguments left pieces)
      | none, value :: left =>
        let s ← conversion.write escape value
        return s ++ (← fill escape arguments left pieces)
      | none, [] => throw .invalidOperation

/-- The subject with values filled in. In a safe text they are escaped. -/
def format (escaping : Escaping) : Taking Value := do
  match ← Taking.value with
  | .text s safe =>
    let arguments ← Taking.rest
    let escape (value : Value) : String := if safe then escaping.write value else value.toText
    match pieces? s with
    | some pieces => return .text (← liftM (fill escape arguments arguments pieces)) safe
    | none => throw .invalidOperation
  | _ => throw .invalidOperation

end TemplateCatalog.Template.Filter
