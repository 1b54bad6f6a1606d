import TemplateCatalog.Text.Digit
import TemplateCatalog.Yaml.Folding

/-!
# Quoted scalars

Scalars between quotes. Between single quotes a doubled quote stands for one; between double
quotes a backslash starts an escape. Both fold their lines.
-/

namespace TemplateCatalog.Yaml

/-- What a backslash and the character after it amount to. -/
inductive Escape where
  /-- A character. -/
  | char (c : Char)
  /-- The start of a character number of so many digits. -/
  | digits (count : Nat)

/-- The meaning of the character after a backslash. -/
def escape? (c : Char) : Option Escape :=
  match c with
  | '0' => some (.char '\x00')
  | 'a' => some (.char '\x07')
  | 'b' => some (.char '\x08')
  | 't' | '\t' => some (.char '\t')
  | 'n' => some (.char '\n')
  | 'v' => some (.char '\x0b')
  | 'f' => some (.char '\x0c')
  | 'r' => some (.char '\r')
  | 'e' => some (.char '\x1b')
  | ' ' => some (.char ' ')
  | '"' => some (.char '"')
  | '/' => some (.char '/')
  | '\\' => some (.char '\\')
  | 'N' => some (.char (Char.ofNat 0x85))
  | '_' => some (.char (Char.ofNat 0xA0))
  | 'L' => some (.char (Char.ofNat 0x2028))
  | 'P' => some (.char (Char.ofNat 0x2029))
  | 'x' => some (.digits 2)
  | 'u' => some (.digits 4)
  | 'U' => some (.digits 8)
  | _ => none

/-- The character with a number, if there is one. -/
def charOfNumber? (n : Nat) : Option Char :=
  if (0xD800 ≤ n ∧ n ≤ 0xDFFF) ∨ 0x10FFFF < n then none else some (Char.ofNat n)

/-- The character that so many digits name, and what is left. -/
def takeNumber : (count value : Nat) → List Spot → Option (Char × List Spot)
  | 0, value, spots => (charOfNumber? value).map (·, spots)
  | count + 1, value, spot :: spots =>
    (Text.hexDigit? spot.char).bind fun d => takeNumber count (value * 16 + d) spots
  | _ + 1, _, [] => none

/-- Taking a character number never gives back more than there was. -/
theorem length_takeNumber_le {count value : Nat} {spots rest : List Spot} {c : Char}
    (taken : takeNumber count value spots = some (c, rest)) : rest.length ≤ spots.length := by
  induction count generalizing value spots with
  | zero =>
    simp only [takeNumber, Option.map_eq_some_iff] at taken
    obtain ⟨_, _, eq⟩ := taken
    cases eq
    exact Nat.le_refl _
  | succ count ih =>
    cases spots with
    | nil => simp [takeNumber] at taken
    | cons spot spots =>
      simp only [takeNumber, Option.bind_eq_some_iff] at taken
      obtain ⟨_, _, taken⟩ := taken
      exact Nat.le_succ_of_le (ih taken)

/-- The scalar up to its closing quote, as a text whose last character comes first, and what is
left after the quote. -/
def scanQuoted (single : Bool) (spots : List Spot) (text : List Char) (gap : Gap) :
    Option (List Char × List Spot) :=
  match spots with
  | [] => none
  | spot :: rest =>
    if isBlank spot.char || isBreak spot.char then
      scanQuoted single rest text (gap.push spot.char)
    else if atDocumentMarker (spot :: rest) then none
    else
      let text := gap.folded ++ text
      if single then
        if spot.char.toNat = 0x27 then
          match rest with
          | next :: after =>
            if next.char.toNat = 0x27 then scanQuoted single after (next.char :: text) .none
            else some (text, rest)
          | [] => some (text, rest)
        else scanQuoted single rest (spot.char :: text) .none
      else if spot.char = '"' then some (text, rest)
      else if spot.char = '\\' then
        match rest with
        | [] => none
        | next :: after =>
          if isBreak next.char then scanQuoted single after text .escaped
          else
            match escape? next.char with
            | some (.char c) => scanQuoted single after (c :: text) .none
            | some (.digits count) =>
              match taken : takeNumber count 0 after with
              | some (c, after) =>
                have := length_takeNumber_le taken
                scanQuoted single after (c :: text) .none
              | none => none
            | none => none
      else scanQuoted single rest (spot.char :: text) .none
termination_by spots.length
decreasing_by
  all_goals simp only [List.length_cons]
  all_goals omega

end TemplateCatalog.Yaml
