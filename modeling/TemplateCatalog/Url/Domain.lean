import TemplateCatalog.Text.Direction
import TemplateCatalog.Url.Domain.Character
import TemplateCatalog.Url.Punycode

/-!
# Domain names

A domain name is made of labels between points. A label beyond ASCII may be written in a code. What
a label shows must not begin with a mark, must not hold joiners where they make no difference, and
has to be written in one direction if any label of the name is written from right to left.

Main statements:

* `parts_ne_nil`: a text has at least one part.
* `runsOneWay_of_rightward`: a label whose characters all run from left to right runs one way.
-/

namespace TemplateCatalog.Url

/-- The parts of a text between occurrences of a character. -/
def parts (separator : Char) : List Char → List (List Char)
  | [] => [[]]
  | c :: cs =>
    if c = separator then [] :: parts separator cs
    else
      match parts separator cs with
      | part :: others => (c :: part) :: others
      | [] => [[c]]

/-- A text has at least one part. -/
theorem parts_ne_nil (separator : Char) (cs : List Char) : parts separator cs ≠ [] := by
  cases cs with
  | nil => simp [parts]
  | cons c cs =>
    simp only [parts]
    split
    · simp
    · split <;> simp

namespace Domain

open Text (Direction)

/-- The start of a label that is written in a code. -/
def codeStart : List Char :=
  "xn--".toList

/-- What a label shows, given its characters as they are read. A code has to show some character
beyond ASCII, and only characters that stand for themselves. -/
def shown? (label : List Char) : Option (List Char) :=
  if codeStart.isPrefixOf label then do
    let shown ← Punycode.decode? (label.drop codeStart.length)
    if shown.all (·.toNat < 0x80) || !shown.all isPlain || codeStart.isPrefixOf shown then none
    else return shown
  else some label

/-- The label begins with no mark, and its joiners stand where they make a difference. -/
def isWellFormed (label : List Char) : Bool :=
  !label.head?.any Text.isMark && Text.joinersFit [] label

/-- The character is written from right to left. -/
def isLeftward (c : Char) : Bool :=
  let direction := Direction.ofCharacter c
  direction == .leftward || direction == .arabicDigit

/-- The label is written in one direction: the first character has one, no other character has the
other one, and the last character but for marks has one or is a digit. Digits of different scripts
do not stand together in a label that is written from right to left. -/
def runsOneWay (label : List Char) : Bool :=
  match label.map Direction.ofCharacter with
  | [] => true
  | first :: rest =>
    let directions := (rest.reverse.dropWhile (· == .mark)).reverse
    match first with
    | .rightward =>
      directions.all (fun d => d != .leftward && d != .arabicDigit) &&
        directions.getLast?.all (fun d => d == .rightward || d == .digit)
    | .leftward =>
      directions.all (· != .rightward) && directions.getLast?.all (· != .neutral) &&
        !(directions.contains .digit && directions.contains .arabicDigit)
    | _ => false

/-- A label whose characters all run from left to right runs one way. -/
theorem runsOneWay_of_rightward {label : List Char}
    (rightward : ∀ c ∈ label, Direction.ofCharacter c = .rightward) : runsOneWay label = true := by
  cases label with
  | nil => rfl
  | cons c cs =>
    have first := rightward c (by simp)
    have others : ∀ d ∈ ((cs.map Direction.ofCharacter).reverse.dropWhile (· == .mark)).reverse,
        d = .rightward := by
      intro d member
      have found := List.mem_reverse.1 ((List.dropWhile_sublist _).mem (List.mem_reverse.1 member))
      obtain ⟨e, inside, rfl⟩ := List.mem_map.1 found
      exact rightward e (by simp [inside])
    have last :
        ∀ d ∈ ((cs.map Direction.ofCharacter).reverse.dropWhile (· == .mark)).reverse.getLast?,
          d = .rightward := fun d member => others d (List.mem_of_mem_getLast? member)
    simp only [runsOneWay, List.map_cons, first, Bool.and_eq_true, List.all_eq_true]
    refine ⟨fun d member => by simp [others d member], ?_⟩
    cases found : ((cs.map Direction.ofCharacter).reverse.dropWhile (· == .mark)).reverse.getLast?
    · rfl
    · simp [last _ found]

/-- The characters of a domain name as they are read, if it is one. -/
def read? (name : List Char) : Option (List Char) := do
  let characters := (← name.mapM reading?).flatten
  let labels ← (parts '.' characters).mapM shown?
  let oneWay := !labels.flatten.any isLeftward || labels.all runsOneWay
  if labels.all isWellFormed && oneWay then return characters else none

end Domain

end TemplateCatalog.Url
