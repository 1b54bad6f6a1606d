import TemplateCatalog.Template.Fault
import TemplateCatalog.Text.Digit

/-!
# Escapes in quoted texts

What the characters between the quotes of a template stand for. A backslash starts an escape; one
that is followed by a character without a meaning stands for itself.

Main statement: `unescape_of_not_mem`, a text without backslashes stands for itself.
-/

namespace TemplateCatalog.Template

/-- The number in the first characters of a text, so many of them: digits of base sixteen, behind a
plus sign if there is one. -/
def hexNumber? (width : Nat) (cs : List Char) : Option Nat :=
  let field := cs.take width
  if field.length = width then
    Text.digits? 16 (if field.head? = some '+' then field.drop 1 else field)
  else none

/-- The character that two halves of a pair stand for. -/
def pairChar? (high low : Nat) : Option Char :=
  if 0xD800 ≤ high ∧ high < 0xDC00 ∧ 0xDC00 ≤ low ∧ low < 0xE000 then
    some (Char.ofNat (0x10000 + (high - 0xD800) * 0x400 + (low - 0xDC00)))
  else none

/-- The character that a single letter behind a backslash stands for. -/
def letterEscape? (c : Char) : Option Char :=
  match c with
  | '"' | '\\' | '/' => some c
  | 'b' => some '\x08'
  | 'f' => some '\x0c'
  | 'n' => some '\n'
  | 'r' => some '\r'
  | 't' => some '\t'
  | _ => if c.toNat = 0x27 then some c else none

/-- The character is an octal digit. -/
def isOctal (c : Char) : Bool :=
  '0' ≤ c && c ≤ '7'

/-- The characters that an escaped text stands for; `half` is the first half of a pair that was
just read. Each step takes at least one character, so as many steps as characters are enough. -/
def unescapeFrom : Nat → (half : Option Nat) → List Char → Except Fault (List Char)
  | _, none, [] => .ok []
  | _, some _, [] => .error .badEscape
  | 0, _, _ => .error .badEscape
  | steps + 1, half, '\\' :: 'u' :: rest =>
    match hexNumber? 4 rest, half with
    | some n, none =>
      if 0xD800 ≤ n ∧ n < 0xE000 then unescapeFrom steps (some n) (rest.drop 4)
      else (unescapeFrom steps none (rest.drop 4)).map (Char.ofNat n :: ·)
    | some low, some high =>
      match pairChar? high low with
      | some c => (unescapeFrom steps none (rest.drop 4)).map (c :: ·)
      | none => .error .badEscape
    | none, _ => .error .badEscape
  | _, some _, _ => .error .badEscape
  | steps + 1, none, '\\' :: c :: rest =>
    if c = 'x' then
      match hexNumber? 2 rest with
      | some n => (unescapeFrom steps none (rest.drop 2)).map (Char.ofNat n :: ·)
      | none => .error .badEscape
    else if isOctal c then
      let digits := c :: (rest.take 2).takeWhile isOctal
      let n := digits.foldl (fun n d => n * 8 + (d.toNat - 48)) 0
      if 256 ≤ n then .error .badEscape
      else (unescapeFrom steps none (rest.drop (digits.length - 1))).map (Char.ofNat n :: ·)
    else
      match letterEscape? c with
      | some d => (unescapeFrom steps none rest).map (d :: ·)
      | none => (unescapeFrom steps none rest).map ('\\' :: c :: ·)
  | steps + 1, none, c :: rest =>
    if c = '\\' then .error .badEscape else (unescapeFrom steps none rest).map (c :: ·)

/-- The characters that an escaped text stands for. -/
def unescape (cs : List Char) : Except Fault (List Char) :=
  unescapeFrom cs.length none cs

/-- A text without backslashes stands for itself. -/
theorem unescape_of_not_mem {cs : List Char} (h : '\\' ∉ cs) : unescape cs = .ok cs := by
  simp only [unescape]
  induction cs with
  | nil => rfl
  | cons c cs ih =>
    have first : c ≠ '\\' := fun eq => h (by simp [eq])
    have rest := ih fun member => h (List.mem_cons_of_mem c member)
    simp [unescapeFrom, first, rest, Except.map]

end TemplateCatalog.Template
