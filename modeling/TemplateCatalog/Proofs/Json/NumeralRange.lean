import TemplateCatalog.Json.Numeral
import TemplateCatalog.Proofs.Decimal.Scaling
import TemplateCatalog.Proofs.Text.Digits

/-!
# The range of numerals

Which numerals stand for numbers. A numeral is read by its leading digits, and these are scaled step
by step; so what is read differs a little from the number that is written, and close to the bound of
the finite numbers this decides on whether a numeral stands for a number. Farther from it, a numeral
stands for a number exactly if what is written is below the bound.

The module introduces:

* `Numeral.size`: how large the number is that is written;
* `Numeral.leading`: what is read of the digits.

Main statements:

* `Numeral.within_leading`: what is read differs little from what is written.
* `Numeral.isSome_number?_of_size_le`, `Numeral.number?_eq_none_of_le_size`: numerals below the
  bound stand for numbers, and numerals above it do not.
-/

namespace TemplateCatalog

/-! ### Digits -/

namespace Text

/-- Digits are bounded by those in front, in units of the last one of these. -/
theorem ofDigits_append_bounds (digits : List Nat) {more : List Nat} (hmore : ∀ d ∈ more, d < 10)
    (k : Int) :
    (ofDigits 10 digits : ℚ) * 10 ^ (k + more.length) ≤ ofDigits 10 (digits ++ more) * 10 ^ k ∧
      (ofDigits 10 (digits ++ more) : ℚ) * 10 ^ k <
        (ofDigits 10 digits + 1) * 10 ^ (k + more.length) := by
  have hlt : (ofDigits 10 more : ℚ) < 10 ^ more.length := by exact_mod_cast ofDigits_lt hmore
  have happend : (ofDigits 10 (digits ++ more) : ℚ) =
      ofDigits 10 digits * 10 ^ more.length + ofDigits 10 more := by
    exact_mod_cast ofDigits_append 10 digits more
  have hscale : (10 : ℚ) ^ (k + more.length) = 10 ^ more.length * 10 ^ k := by
    rw [zpow_add₀ (by norm_num), zpow_natCast, mul_comm]
  have hpositive : (0 : ℚ) < 10 ^ k := by positivity
  rw [happend, hscale, ← mul_assoc, ← mul_assoc]
  constructor
  · exact mul_le_mul_of_nonneg_right (le_add_of_nonneg_right (Nat.cast_nonneg _)) hpositive.le
  · refine mul_lt_mul_of_pos_right ?_ hpositive
    linarith

end Text

namespace Json

open Decimal

/-- Digits are taken from the front, and what is taken fits into 64 bits. If a digit is left, then
it does not fit as well. -/
theorem exists_takeDigits {n : Nat} (hn : n < 2 ^ 64) (digits : List Nat) :
    ∃ taken, digits = taken ++ (takeDigits n digits).2 ∧
      (takeDigits n digits).1 = n * 10 ^ taken.length + Text.ofDigits 10 taken ∧
      (takeDigits n digits).1 < 2 ^ 64 ∧
      ∀ d ∈ (takeDigits n digits).2.head?, 2 ^ 64 ≤ (takeDigits n digits).1 * 10 + d := by
  -- What has been read so far is carried along in `n`, which the digits that are taken extend.
  induction digits generalizing n with
  | nil => exact ⟨[], rfl, by simp [takeDigits, Text.ofDigits], hn, by simp [takeDigits]⟩
  | cons d digits ih =>
    by_cases hfits : n * 10 + d < twoTo 64
    · obtain ⟨taken, hdigits, hvalue, hlt, hnext⟩ := ih hfits
      rw [takeDigits, if_pos hfits]
      refine ⟨d :: taken, congrArg (d :: ·) hdigits, ?_, hlt, hnext⟩
      have happend := Text.ofDigits_append 10 [d] taken
      have hsingle : Text.ofDigits 10 [d] = d := by simp [Text.ofDigits]
      rw [List.singleton_append, hsingle] at happend
      rw [hvalue, happend, List.length_cons, pow_succ]
      ring
    · rw [takeDigits, if_neg hfits]
      refine ⟨[], rfl, by simp [Text.ofDigits], hn, ?_⟩
      rintro d' ⟨⟩
      exact not_lt.mp hfits

namespace Numeral

/-- The power of ten that the exponent is. -/
def scale (numeral : Numeral) : Int :=
  match numeral.exponent with
  | none => 0
  | some (down, digits) =>
    if down then -(Text.ofDigits 10 digits : Int) else Text.ofDigits 10 digits

/-- How large the number is that is written, whatever its sign. -/
def size (numeral : Numeral) : ℚ :=
  Text.ofDigits 10 (numeral.whole ++ numeral.fraction) *
    10 ^ (numeral.scale - numeral.fraction.length)

/-- The digits that are read, and the power of ten that they are scaled by without the exponent. -/
def leading (numeral : Numeral) : Nat × Int :=
  let (high, dropped) := takeDigits 0 numeral.whole
  let (digits, unread) := takeDigits high numeral.fraction
  (digits, dropped.length - (numeral.fraction.length - unread.length : Nat))

variable {numeral : Numeral}

/-- As much of a number as counts up to sixty binary places. -/
theorem within_of_same_places {h : Nat} (hlarge : 2 ^ 60 ≤ h) {unit x y : ℚ} (hunit : 0 < unit)
    (hx : h * unit ≤ x ∧ x < (h + 1) * unit) (hy : h * unit ≤ y ∧ y < (h + 1) * unit) :
    Within (1 / 2 ^ 60) x y := by
  have hlarge : (2 : ℚ) ^ 60 ≤ h := by exact_mod_cast hlarge
  have hplace : unit ≤ y * (1 / 2 ^ 60) := by
    rw [mul_one_div, le_div_iff₀ (by positivity), mul_comm]
    exact (mul_le_mul_of_nonneg_right hlarge hunit.le).trans hy.1
  constructor
  · calc y * (1 - 1 / 2 ^ 60) = y - y * (1 / 2 ^ 60) := by ring
      _ ≤ h * unit := by linarith
      _ ≤ x := hx.1
  · calc x ≤ (h + 1) * unit := hx.2.le
      _ = h * unit + unit := by ring
      _ ≤ y + y * (1 / 2 ^ 60) := add_le_add hy.1 hplace
      _ = y * (1 + 1 / 2 ^ 60) := by ring

theorem leading_lt (numeral : Numeral) : numeral.leading.1 < 2 ^ 64 := by
  obtain ⟨-, -, -, hhigh, -⟩ := exists_takeDigits (show 0 < 2 ^ 64 by decide) numeral.whole
  obtain ⟨-, -, -, hdigits, -⟩ := exists_takeDigits hhigh numeral.fraction
  exact hdigits

/-- What is read are the digits that are taken on either side of the point. Where a digit is left on
one side, those that are taken so far are many. -/
theorem exists_leading (hdigits : ∀ d ∈ numeral.whole ++ numeral.fraction, d < 10) :
    ∃ taken dropped more unread, numeral.whole = taken ++ dropped ∧
      numeral.fraction = more ++ unread ∧
      numeral.leading = (Text.ofDigits 10 (taken ++ more), (dropped.length : Int) - more.length) ∧
      (dropped ≠ [] → 2 ^ 60 ≤ Text.ofDigits 10 taken) ∧
      (unread ≠ [] → 2 ^ 60 ≤ Text.ofDigits 10 (taken ++ more)) := by
  obtain ⟨taken, hwhole, hhigh, hlt, hdropped⟩ :=
    exists_takeDigits (show 0 < 2 ^ 64 by decide) numeral.whole
  obtain ⟨more, hfraction, hread, -, hunread⟩ := exists_takeDigits hlt numeral.fraction
  rcases hfirst : takeDigits 0 numeral.whole with ⟨high, dropped⟩
  simp only [hfirst] at hwhole hhigh hdropped hfraction hread hunread
  rcases hsecond : takeDigits high numeral.fraction with ⟨digits, unread⟩
  simp only [hsecond] at hfraction hread hunread
  rw [zero_mul, zero_add] at hhigh
  obtain rfl : digits = Text.ofDigits 10 (taken ++ more) := by
    rw [Text.ofDigits_append, ← hhigh, hread]
  rw [List.forall_mem_append] at hdigits
  refine ⟨taken, dropped, more, unread, hwhole, hfraction, ?_, fun hne => ?_, fun hne => ?_⟩
  · have hlength : numeral.fraction.length - unread.length = more.length := by
      rw [hfraction, List.length_append, Nat.add_sub_cancel]
    simp only [leading, hfirst, hsecond, hlength]
  · have hnext := hdropped _ (List.head?_eq_some_head hne)
    have hd := hdigits.1 _ (hwhole ▸ List.mem_append_right _ (List.head_mem hne))
    omega
  · have hnext := hunread _ (List.head?_eq_some_head hne)
    have hd := hdigits.2 _ (hfraction ▸ List.mem_append_right _ (List.head_mem hne))
    omega

/-- What is read of the digits differs little from what is written. -/
theorem within_leading (hdigits : ∀ d ∈ numeral.whole ++ numeral.fraction, d < 10) :
    Within (1 / 2 ^ 60) numeral.size
      (numeral.leading.1 * 10 ^ (numeral.leading.2 + numeral.scale)) := by
  obtain ⟨taken, dropped, more, unread, hwhole, hfraction, hleading, hdropped, hunread⟩ :=
    exists_leading hdigits
  have hsize : numeral.size = Text.ofDigits 10 (taken ++ (dropped ++ (more ++ unread))) *
      10 ^ (numeral.scale - (more.length + unread.length : Nat)) := by
    rw [size, hwhole, hfraction, List.append_assoc, List.length_append]
  rw [hwhole, hfraction] at hdigits
  simp only [List.forall_mem_append] at hdigits
  obtain ⟨⟨-, hdigitsDropped⟩, hdigitsMore, hdigitsUnread⟩ := hdigits
  rw [hleading, hsize]
  have hpositive : ∀ k : Int, (0 : ℚ) < 10 ^ k := fun k => by positivity
  by_cases hfits : dropped = []
  · subst hfits
    rw [List.nil_append, ← List.append_assoc, List.length_nil]
    have hx := Text.ofDigits_append_bounds (taken ++ more) hdigitsUnread
      (numeral.scale - (more.length + unread.length : Nat))
    have hunit : numeral.scale - (more.length + unread.length : Nat) + (unread.length : Int) =
        ((0 : Nat) : Int) - more.length + numeral.scale := by
      omega
    rw [hunit] at hx
    -- What is left unread is behind the point, and less than one of the last digit that is read.
    by_cases hall : unread = []
    · subst hall
      have hall : numeral.scale - (more.length + ([] : List Nat).length : Nat) =
          ((0 : Nat) : Int) - more.length + numeral.scale := by
        rw [List.length_nil]
        omega
      rw [List.append_nil, hall]
      exact .refl (by positivity) (by positivity)
    · refine within_of_same_places (hunread hall) (hpositive _) hx ⟨le_rfl, ?_⟩
      exact mul_lt_mul_of_pos_right (lt_add_one _) (hpositive _)
  · -- The digits that are taken behind the point stand in place of what is dropped before it.
    have hrest : ∀ d ∈ dropped ++ (more ++ unread), d < 10 := by
      simp only [List.forall_mem_append]
      exact ⟨hdigitsDropped, hdigitsMore, hdigitsUnread⟩
    have hx := Text.ofDigits_append_bounds taken hrest
      (numeral.scale - (more.length + unread.length : Nat))
    have hy := Text.ofDigits_append_bounds taken hdigitsMore
      ((dropped.length : Int) - more.length + numeral.scale)
    have hunit : numeral.scale - (more.length + unread.length : Nat) +
        ((dropped ++ (more ++ unread)).length : Int) =
        (dropped.length : Int) - more.length + numeral.scale + more.length := by
      simp only [List.length_append]
      omega
    rw [hunit] at hx
    exact within_of_same_places (hdropped hfits) (hpositive _) hx hy

/-- An exponent that is not too large is added to the power of ten. -/
theorem float?_of_le
    (hexponent : ∀ down digits, numeral.exponent = some (down, digits) →
      Text.ofDigits 10 digits ≤ exponentLimit) :
    numeral.float?.isSome =
      (scaled? numeral.leading.1 (numeral.leading.2 + numeral.scale)).isSome := by
  unfold float? leading scale
  rw [Option.isSome_map]
  cases hwritten : numeral.exponent with
  | none => simp only [add_zero]
  | some exponent =>
    obtain ⟨down, digits⟩ := exponent
    cases down with
    | true => simp only [hexponent _ _ hwritten, if_true, sub_eq_add_neg]
    | false => simp only [hexponent _ _ hwritten, if_true, if_neg Bool.false_ne_true]

/-- A numeral with an exponent that is too large is zero, or not finite. -/
theorem float?_of_lt {down : Bool} {digits : List Nat}
    (hwritten : numeral.exponent = some (down, digits))
    (hexponent : exponentLimit < Text.ofDigits 10 digits) :
    numeral.float?.isSome = true ↔ numeral.leading.1 = 0 ∨ down = true := by
  unfold float? leading
  rw [Option.isSome_map, hwritten]
  simp only [if_neg (not_le.mpr hexponent)]
  split
  · next hzero => exact iff_of_true rfl hzero
  · next hzero => exact iff_of_false Bool.false_ne_true hzero

/-- The digits of an integer of 64 bits are read as they are. -/
theorem leading_of_isWhole (hwhole : numeral.isWhole = true)
    (hdropped : (takeDigits 0 numeral.whole).2 = []) :
    numeral.exponent = none ∧ numeral.leading.2 + numeral.scale = 0 := by
  rw [isWhole, Bool.and_eq_true, List.isEmpty_iff, Option.isNone_iff_eq_none] at hwhole
  obtain ⟨hfraction, hexponent⟩ := hwhole
  refine ⟨hexponent, ?_⟩
  simp only [leading, scale, hexponent, hfraction, hdropped, takeDigits, List.length_nil]
  rfl

/-- A numeral stands for a number if it is one as a floating point number. -/
theorem isSome_number?_iff : numeral.number?.isSome = true ↔ numeral.float?.isSome = true := by
  unfold number?
  simp only
  split
  · next hcondition =>
    rw [Bool.and_eq_true, List.isEmpty_iff] at hcondition
    obtain ⟨hexponent, hscale⟩ := leading_of_isWhole hcondition.1 hcondition.2
    have hbits : (numeral.leading.1 : ℚ) < 2 ^ 64 := by exact_mod_cast numeral.leading_lt
    -- An integer of 64 bits is not read as a floating point number, but would be finite as one.
    have hfloat : numeral.float?.isSome = true := by
      rw [float?_of_le (by simp [hexponent]), hscale]
      refine isSome_scaled? numeral.leading_lt ?_
      rw [zpow_zero, mul_one]
      calc (numeral.leading.1 : ℚ) * (1 + lastPlace) ^ 3 < 2 ^ 64 * (1 + lastPlace) ^ 3 :=
            mul_lt_mul_of_pos_right hbits (by norm_num [lastPlace])
        _ < floatBound := by norm_num [lastPlace, floatBound_eq]
    refine iff_of_true ?_ hfloat
    split
    · rfl
    · split <;> rfl
  · rw [Option.isSome_map]

/-! ### The bound -/

/-- What numerals are read as differs less than this from what is written, as a fraction of it. -/
def tolerance : ℚ :=
  1 / 2 ^ 50

/-- The numeral has few enough digits for counting them. -/
def IsShort (numeral : Numeral) : Prop :=
  numeral.whole.length + numeral.fraction.length < 2000000000

theorem scaled_lt_floatBound {x y : ℚ} (hwithin : Within (1 / 2 ^ 60) x y)
    (hx : x ≤ floatBound * (1 - tolerance)) : y * (1 + lastPlace) ^ 3 < floatBound := by
  have hrest : (0 : ℚ) < 1 - 1 / 2 ^ 60 := by norm_num
  have hsteps : (0 : ℚ) ≤ (1 + lastPlace) ^ 3 := by norm_num [lastPlace]
  have htolerance : (1 - tolerance) * (1 + lastPlace) ^ 3 < 1 - 1 / 2 ^ 60 := by
    norm_num [tolerance, lastPlace]
  refine lt_of_mul_lt_mul_right ?_ hrest.le
  calc y * (1 + lastPlace) ^ 3 * (1 - 1 / 2 ^ 60)
      = y * (1 - 1 / 2 ^ 60) * (1 + lastPlace) ^ 3 := by ring
    _ ≤ floatBound * (1 - tolerance) * (1 + lastPlace) ^ 3 :=
      mul_le_mul_of_nonneg_right (hwithin.1.trans hx) hsteps
    _ = floatBound * ((1 - tolerance) * (1 + lastPlace) ^ 3) := by ring
    _ < floatBound * (1 - 1 / 2 ^ 60) := mul_lt_mul_of_pos_left htolerance floatBound_pos

theorem floatBound_le_scaled {x y : ℚ} (hwithin : Within (1 / 2 ^ 60) x y)
    (hx : floatBound * (1 + tolerance) ≤ x) : floatBound ≤ y * (1 - lastPlace) ^ 3 := by
  have hrest : (0 : ℚ) < 1 + 1 / 2 ^ 60 := by norm_num
  have hsteps : (0 : ℚ) ≤ (1 - lastPlace) ^ 3 := by norm_num [lastPlace]
  have htolerance : 1 + 1 / 2 ^ 60 ≤ (1 + tolerance) * (1 - lastPlace) ^ 3 := by
    norm_num [tolerance, lastPlace]
  refine le_of_mul_le_mul_right ?_ hrest
  calc floatBound * (1 + 1 / 2 ^ 60) ≤ floatBound * ((1 + tolerance) * (1 - lastPlace) ^ 3) :=
        mul_le_mul_of_nonneg_left htolerance floatBound_pos.le
    _ = floatBound * (1 + tolerance) * (1 - lastPlace) ^ 3 := by ring
    _ ≤ y * (1 + 1 / 2 ^ 60) * (1 - lastPlace) ^ 3 :=
      mul_le_mul_of_nonneg_right (hx.trans hwithin.2) hsteps
    _ = y * (1 - lastPlace) ^ 3 * (1 + 1 / 2 ^ 60) := by ring

/-- A short numeral with an exponent that is too large is beyond the bound, unless it is zero. -/
theorem floatBound_lt_size {digits : List Nat} (hshort : numeral.IsShort)
    (hwritten : numeral.exponent = some (false, digits))
    (hlarge : exponentLimit < Text.ofDigits 10 digits)
    (hpos : 0 < Text.ofDigits 10 (numeral.whole ++ numeral.fraction)) :
    floatBound < numeral.size := by
  have hlimit : exponentLimit = 2147483647 := rfl
  have hscale : numeral.scale = Text.ofDigits 10 digits := by
    simp only [scale, hwritten, if_neg Bool.false_ne_true]
  have hexponent : 308 < numeral.scale - numeral.fraction.length := by
    unfold IsShort at hshort
    omega
  have hbound := floatBound_lt_of_large hpos hexponent
  exact (lt_mul_of_one_lt_right floatBound_pos one_lt_two).trans hbound

/-- A short numeral with an exponent that is too large, and negative, is small. -/
theorem size_lt_one {digits : List Nat} (hshort : numeral.IsShort)
    (hdigits : ∀ d ∈ numeral.whole ++ numeral.fraction, d < 10)
    (hwritten : numeral.exponent = some (true, digits))
    (hlarge : exponentLimit < Text.ofDigits 10 digits) : numeral.size < 1 := by
  have hlimit : exponentLimit = 2147483647 := rfl
  have hscale : numeral.scale = -(Text.ofDigits 10 digits : Int) := by
    simp only [scale, hwritten, if_true]
  have hlt : (Text.ofDigits 10 (numeral.whole ++ numeral.fraction) : ℚ) <
      10 ^ ((numeral.whole ++ numeral.fraction).length : Int) := by
    rw [zpow_natCast]
    exact_mod_cast Text.ofDigits_lt hdigits
  calc numeral.size < 10 ^ ((numeral.whole ++ numeral.fraction).length : Int) *
        10 ^ (numeral.scale - numeral.fraction.length) :=
        mul_lt_mul_of_pos_right hlt (by positivity)
    _ = 10 ^ (((numeral.whole ++ numeral.fraction).length : Int) +
        (numeral.scale - numeral.fraction.length)) := (zpow_add₀ (by norm_num) _ _).symm
    _ ≤ 1 := by
      refine zpow_le_one_of_nonpos₀ (by norm_num) ?_
      unfold IsShort at hshort
      rw [List.length_append, hscale]
      omega

/-- A numeral that is below the bound by more than the tolerance stands for a number. -/
theorem isSome_number?_of_size_le (hdigits : ∀ d ∈ numeral.whole ++ numeral.fraction, d < 10)
    (hshort : numeral.IsShort) (hsize : numeral.size ≤ floatBound * (1 - tolerance)) :
    numeral.number?.isSome = true := by
  have hwithin := within_leading hdigits
  have hlow : floatBound * (1 - tolerance) ≤ floatBound := by norm_num [tolerance, floatBound_eq]
  rw [isSome_number?_iff]
  by_cases hexponent : ∃ down digits, numeral.exponent = some (down, digits) ∧
      exponentLimit < Text.ofDigits 10 digits
  · obtain ⟨down, digits, hwritten, hlarge⟩ := hexponent
    rw [float?_of_lt hwritten hlarge]
    cases down with
    | true => exact .inr rfl
    | false =>
      refine .inl ((Nat.eq_zero_or_pos _).resolve_right fun hread => ?_)
      -- Then some digit is not zero, and the exponent puts it beyond the bound.
      have hpos : 0 < Text.ofDigits 10 (numeral.whole ++ numeral.fraction) := by
        rw [Nat.pos_iff_ne_zero]
        intro hzero
        have hnone : numeral.size = 0 := by rw [size, hzero, Nat.cast_zero, zero_mul]
        have hread : (0 : ℚ) < numeral.leading.1 := by exact_mod_cast hread
        have hrest : (0 : ℚ) < 1 - 1 / 2 ^ 60 := by norm_num
        have hle := hwithin.1
        rw [hnone] at hle
        exact absurd hle (not_le.mpr (mul_pos (mul_pos hread (by positivity)) hrest))
      have hbound := floatBound_lt_size hshort hwritten hlarge hpos
      exact absurd (hsize.trans hlow) (not_le.mpr hbound)
  · push Not at hexponent
    rw [float?_of_le hexponent]
    exact isSome_scaled? numeral.leading_lt (scaled_lt_floatBound hwithin hsize)

/-- A numeral that is above the bound by more than the tolerance stands for no number. -/
theorem number?_eq_none_of_le_size (hdigits : ∀ d ∈ numeral.whole ++ numeral.fraction, d < 10)
    (hshort : numeral.IsShort) (hsize : floatBound * (1 + tolerance) ≤ numeral.size) :
    numeral.number? = none := by
  have hwithin := within_leading hdigits
  have hhigh : 1 ≤ floatBound * (1 + tolerance) := by norm_num [tolerance, floatBound_eq]
  rw [← Option.not_isSome_iff_eq_none, isSome_number?_iff]
  by_cases hexponent : ∃ down digits, numeral.exponent = some (down, digits) ∧
      exponentLimit < Text.ofDigits 10 digits
  · obtain ⟨down, digits, hwritten, hlarge⟩ := hexponent
    have hone : 1 ≤ numeral.size := hhigh.trans hsize
    rw [float?_of_lt hwritten hlarge]
    rintro (hzero | rfl)
    · have hnone := hwithin.2
      rw [hzero, Nat.cast_zero, zero_mul, zero_mul] at hnone
      linarith
    · exact absurd hone (not_le.mpr (size_lt_one hshort hdigits hwritten hlarge))
  · push Not at hexponent
    rw [float?_of_le hexponent,
      scaled?_eq_none numeral.leading_lt (floatBound_le_scaled hwithin hsize)]
    exact Bool.false_ne_true

end Numeral

end Json

end TemplateCatalog
