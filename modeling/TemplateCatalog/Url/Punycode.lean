/-!
# Coded labels

Labels in characters beyond ASCII are written in ASCII characters: first the ASCII characters of the
label and a hyphen, then digits of base 36 which say how far it is from one further character to
the next, counted through all characters and all places of the label. The first characters of a
number are worth less than the later ones, and where a number may end is adapted to the size of the
numbers before it.

Main statements: `threshold_pos` and `threshold_le`, the bounds of the digits that end a number.
-/

namespace TemplateCatalog.Url.Punycode

/-- The value of a digit: the letters come first, then the digits. -/
def digit? (c : Char) : Option Nat :=
  if 'a' ≤ c ∧ c ≤ 'z' then some (c.toNat - 0x61)
  else if 'A' ≤ c ∧ c ≤ 'Z' then some (c.toNat - 0x41)
  else if '0' ≤ c ∧ c ≤ '9' then some (c.toNat - 0x30 + 26)
  else none

/-- The least value of a digit that does not end a number, at the given place and bias. -/
def threshold (place bias : Nat) : Nat :=
  if place ≤ bias then 1 else if bias + 26 ≤ place then 26 else place - bias

/-- Zero always ends a number. -/
theorem threshold_pos (place bias : Nat) : 0 < threshold place bias := by
  unfold threshold
  split
  · omega
  · split <;> omega

/-- A number may always go on. -/
theorem threshold_le (place bias : Nat) : threshold place bias ≤ 26 := by
  unfold threshold
  split
  · omega
  · split <;> omega

/-- The bias for a size of the coming numbers. -/
def biasFor (size : Nat) : Nat :=
  if 455 < size then 36 + biasFor (size / 35) else 36 * size / (size + 38)
termination_by size
decreasing_by exact Nat.div_lt_self (by omega) (by omega)

/-- The bias behind a number, when the label has got so many characters. -/
def adapt (number count : Nat) (first : Bool) : Nat :=
  let size := if first then number / 700 else number / 2
  biasFor (size + size / count)

/-- What is known between two digits. -/
structure State where
  /-- The characters of the label. -/
  label : List Char
  /-- The number of the character that was put in last. -/
  character : Nat
  /-- The place in the label to go on from. -/
  offset : Nat
  /-- The bias of the number that is read. -/
  bias : Nat
  /-- The number so far. -/
  number : Nat
  /-- What a digit is worth that comes next. -/
  weight : Nat
  /-- The place of the next digit, in steps of 36. -/
  place : Nat

/-- Nothing has been put into a label yet. -/
def State.start (label : List Char) : State where
  label
  character := 0x80
  offset := 0
  bias := 72
  number := 0
  weight := 1
  place := 36

/-- The number of a character that can stand in a text. -/
def isCharacter (n : Nat) : Bool :=
  n < 0xD800 || (0xDFFF < n && n < 0x110000)

/-- Put a character into the label, where the number that has ended says. -/
def State.insert? (s : State) : Option State :=
  let count := s.label.length + 1
  let distance := s.offset + s.number
  let character := s.character + distance / count
  if isCharacter character then
    some {
      label := s.label.insertIdx (distance % count) (Char.ofNat character)
      character
      offset := distance % count + 1
      bias := adapt s.number count (s.offset = 0)
      number := 0
      weight := 1
      place := 36 }
  else none

/-- Read one more digit. -/
def State.read? (s : State) (c : Char) : Option State := do
  let digit ← digit? c
  let read := { s with number := s.number + digit * s.weight }
  if digit < threshold s.place s.bias then read.insert?
  else
    return { read with
      weight := s.weight * (36 - threshold s.place s.bias)
      place := s.place + 36 }

/-- The ASCII characters before the last hyphen, and the digits behind it. -/
def split (code : List Char) : List Char × List Char :=
  let digits := (code.reverse.takeWhile (· ≠ '-')).reverse
  if code.length ≤ digits.length + 1 then ([], code)
  else (code.take (code.length - digits.length - 1), digits)

/-- The label that a code is for. -/
def decode? (code : List Char) : Option (List Char) := do
  let (ascii, digits) := split code
  if ascii.all (·.toNat < 0x80) then
    let s ← digits.foldlM State.read? (State.start ascii)
    if s.place = 36 then return s.label else none
  else none

end TemplateCatalog.Url.Punycode
