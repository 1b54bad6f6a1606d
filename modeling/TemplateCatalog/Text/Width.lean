import TemplateCatalog.Text.Width.Ligature
import TemplateCatalog.Text.Width.Picture

/-!
# The width of texts

How many columns a text takes. The characters of a text are passed from its end to its start, since
what follows a character decides how it is shown: a symbol can be followed by a selector, a picture
by a shade or by a joiner and another picture, and a letter by the rest of a ligature.

Main statement: `width_of_ascii`, a text of ASCII characters is as wide as it is long.
-/

namespace TemplateCatalog.Text

/-- What stands behind a character. -/
inductive Follower where
  /-- Nothing that matters. -/
  | other
  /-- The end of a ligature, maybe with a joiner in front. -/
  | ending (last : Ending) (joined : Bool)
  /-- A picture, maybe with a joiner in front. -/
  | picture (joined : Bool)
  /-- A shade. -/
  | shade
  /-- Halves of flags, and whether there are several. -/
  | flagHalf (several : Bool)
  deriving DecidableEq, Repr

/-- What a selector asks for. -/
inductive Presentation where
  /-- A picture. -/
  | picture
  /-- A text. -/
  | text
  deriving DecidableEq, Repr

/-- What stands behind a character, and the selector in front of it. -/
structure Surrounding where
  /-- What stands behind the character. -/
  follower : Follower
  /-- What a selector asks for. -/
  selected : Option Presentation
  deriving DecidableEq, Repr

namespace Follower

/-- What a character is for the one before it. -/
def ofCharacter (c : Char) : Follower :=
  if isFlagHalf c then .flagHalf false
  else if isShade c then .shade
  else if isPicture c then .picture false
  else (Ending.ofCharacter? c).elim .other (.ending · false)

/-- What a selector leaves of what stands behind it. -/
def behindSelector (presentation : Presentation) (follower : Follower) : Follower :=
  match follower, presentation with
  | .ending last joined, _ => .ending last joined
  | .picture true, .picture => .picture true
  | _, _ => .other

/-- What is left if a selector in front did not apply. -/
def unselected (follower : Follower) : Follower :=
  match follower with
  | .ending last joined => .ending last joined
  | _ => .other

/-- How many columns a character takes together with what follows, and what it is for the character
before it, if the two are shown together. -/
def join? (c : Char) (follower : Follower) : Option (Int × Follower) :=
  match follower with
  | .other => none
  | .ending last joined =>
    if isJoiner c then some (0, .ending last true)
    else if inSpans ignoredSpans c then some (0, follower)
    else (last.extend? joined c).map fun extended =>
      (extended.1, extended.2.elim .other (.ending · false))
  | .shade =>
    if canBeShaded c then some (0, .picture false)
    else if isJoiner c then some (0, .picture true)
    else none
  | .flagHalf several =>
    if isFlagHalf c then some (1, .flagHalf true)
    else if several && isJoiner c then some (0, .picture true)
    else none
  | .picture false => if isJoiner c then some (0, .picture true) else none
  | .picture true =>
    if isShade c then some (0, .shade)
    else if isPicture c then some (0, .picture false)
    else none

end Follower

/-- How many columns a character takes that no selector applies to, and what it is for the one
before it. -/
def plainWidth (c : Char) (follower : Follower) : Int × Surrounding :=
  if c.toNat ≤ 0xA0 then (1, ⟨.other, none⟩)
  else if isPictureSelector c then (0, ⟨follower.behindSelector .picture, some .picture⟩)
  else if isTextSelector c then (0, ⟨follower.behindSelector .text, some .text⟩)
  else
    match follower.join? c with
    | some (width, joined) => (width, ⟨joined, none⟩)
    | none => (charWidth c, ⟨.ofCharacter c, none⟩)

/-- How many columns a character takes, and what it is for the one before it. -/
def widthBefore (c : Char) (next : Surrounding) : Int × Surrounding :=
  match next.selected with
  | none => plainWidth c next.follower
  | some .picture =>
    if canBePicture c then
      (if next.follower = .picture true then 0 else 2, ⟨.picture false, none⟩)
    else plainWidth c next.follower.unselected
  | some .text =>
    if canBeText c then (1, ⟨.other, none⟩) else plainWidth c next.follower.unselected

/-- How many columns the characters take, and what the first of them is for one before it. -/
def widthOf : List Char → Int × Surrounding
  | [] => (0, ⟨.other, none⟩)
  | c :: rest =>
    let behind := widthOf rest
    let own := widthBefore c behind.2
    (own.1 + behind.1, own.2)

/-- How many columns a text takes. -/
def width (s : String) : Nat :=
  (widthOf s.toList).1.toNat

/-- ASCII characters take one column each, and nothing joins them. -/
theorem widthOf_of_ascii {cs : List Char} (ascii : ∀ c ∈ cs, c.toNat < 0x80) :
    widthOf cs = ((cs.length : Int), (⟨.other, none⟩ : Surrounding)) := by
  induction cs with
  | nil => rfl
  | cons c cs ih =>
    have own := ascii c (by simp)
    have step : widthBefore c ⟨.other, none⟩ = (1, ⟨.other, none⟩) := by
      simp only [widthBefore, plainWidth]
      rw [if_pos (by omega)]
    rw [widthOf, ih fun d member => ascii d (by simp [member])]
    simp [step, Int.add_comm]

/-- A text of ASCII characters is as wide as it is long. -/
theorem width_of_ascii {s : String} (ascii : ∀ c ∈ s.toList, c.toNat < 0x80) :
    width s = s.length := by
  rw [width, widthOf_of_ascii ascii, Int.toNat_natCast, String.length_toList]

end TemplateCatalog.Text
