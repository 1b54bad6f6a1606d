import Mathlib
import TemplateCatalog.Decimal.Reading

/-!
# Rounding of floating point numbers

How far rounding is off. A number with more bits than fit is shifted until it has as many as fit,
and what is dropped decides on whether the last place is raised. So the result is off by at most one
in the last place; and it is what a packed floating point number gives back, unless its exponent is
too large.

Rounding is to the nearest number, which halves the bound. That is not used here: it would ask for
the bits that are dropped.

The module introduces:

* `Within`: a number differs from another one by at most a fraction of it;
* `lastPlace`: the last place of a number as such a fraction.

Main statements:

* `exists_roundWithAccuracy`: how far rounding is off.
* `unpack_pack`, `unpack_pack_of_large`: what is packed, when it is unpacked again.
-/

namespace TemplateCatalog.Decimal

open Float.Model (Format totalExponent UnpackedFloat)
open Float.Model.UnpackedFloat

/-! ### Distances -/

/-- The number differs from the other one by at most the given fraction of that one. -/
def Within (fraction x y : ℚ) : Prop :=
  y * (1 - fraction) ≤ x ∧ x ≤ y * (1 + fraction)

theorem Within.refl {fraction y : ℚ} (hfraction : 0 ≤ fraction) (hy : 0 ≤ y) :
    Within fraction y y :=
  ⟨mul_le_of_le_one_right hy (sub_le_self 1 hfraction),
    le_mul_of_one_le_right hy (le_add_of_nonneg_right hfraction)⟩

/-- The last place of a number, as a fraction of the number. -/
def lastPlace : ℚ :=
  1 / 2 ^ 52

/-! ### Shifting -/

theorem mantissa_shiftRight (em : ExtendedMantissa) (k : Nat) :
    (em >>> k).mantissa = em.mantissa / 2 ^ k := by
  induction k with
  | zero => exact (Nat.div_one _).symm
  | succ k ih =>
    show (em >>> k).mantissa / 2 = _
    rw [ih, Nat.div_div_eq_div_mul, ← pow_succ]

theorem roundedMantissa_bounds (em : ExtendedMantissa) :
    em.mantissa ≤ em.roundedMantissa ∧ em.roundedMantissa ≤ em.mantissa + 1 := by
  obtain ⟨mantissa, roundBit, stickyBit⟩ := em
  cases roundBit <;> cases stickyBit <;>
    simp only [ExtendedMantissa.roundedMantissa, ExtendedMantissa.accuracy,
      Accuracy.roundToNearestEven] <;> omega

variable {m : Nat} {e : Int}

/-- What has 53 bits lies between two powers of two. -/
theorem bounds_of_log2 (hm : m.log2 = 52) : 2 ^ 52 ≤ m ∧ m < 2 ^ 53 := by
  have hne : m ≠ 0 := by
    rintro rfl
    cases hm
  exact (Nat.log2_eq_iff hne).mp hm

theorem log2_of_bounds (hlow : 2 ^ 52 ≤ m) (hhigh : m < 2 ^ 53) : m.log2 = 52 :=
  (Nat.log2_eq_iff (by omega)).mpr ⟨hlow, hhigh⟩

/-- Without the bits that do not fit, 53 bits are left. -/
theorem shifted_bounds (hm : 52 ≤ m.log2) :
    2 ^ 52 ≤ m / 2 ^ (m.log2 - 52) ∧ m / 2 ^ (m.log2 - 52) < 2 ^ 53 := by
  have hne : m ≠ 0 := by
    rintro rfl
    simp at hm
  constructor
  · rw [Nat.le_div_iff_mul_le (Nat.two_pow_pos _), ← pow_add, Nat.add_sub_cancel' hm]
    exact Nat.log2_self_le hne
  · rw [Nat.div_lt_iff_lt_mul (Nat.two_pow_pos _), ← pow_add,
      show 53 + (m.log2 - 52) = m.log2 + 1 by omega]
    exact Nat.lt_log2_self

/-- A mantissa with enough bits is shifted until it has just as many as fit. -/
theorem shiftToTargetExponent_eq (hm : 52 ≤ m.log2) (he : -1074 ≤ e) :
    shiftToTargetExponent .binary64 m e .exact =
      (ExtendedMantissa.mk m false false >>> (m.log2 - 52), e + (m.log2 - 52 : Nat)) := by
  have htarget : Format.binary64.targetExponent (totalExponent m e) =
      e + (m.log2 - 52 : Nat) := by
    simp only [Format.targetExponent, totalExponent, Format.mantissaBits, Format.minExponent]
    omega
  have hshift : (e + ((m.log2 - 52 : Nat) : Int) - e).toNat = m.log2 - 52 := by omega
  simp only [shiftToTargetExponent, shiftToExponent, htarget, hshift,
    ExtendedMantissa.ofMantissaAndAccuracy]

/-- What has just as many bits as fit is not changed. -/
theorem shiftToTargetExponent_self (hm : m.log2 = 52) (he : -1074 ≤ e) :
    shiftToTargetExponent .binary64 m e .exact = (⟨m, false, false⟩, e) := by
  rw [shiftToTargetExponent_eq hm.ge he, hm]
  exact Prod.ext rfl (add_zero e)

/-- A number is shifted until it fits and rounded there, and then it is shifted once more. -/
theorem roundWithAccuracy_eq (sign : Sign) (hm : 52 ≤ m.log2) (he : -1074 ≤ e) {r : Nat}
    (hrounded : (ExtendedMantissa.mk m false false >>> (m.log2 - 52)).roundedMantissa = r)
    {final : ExtendedMantissa × Int}
    (hfinal : shiftToTargetExponent .binary64 r (e + (m.log2 - 52 : Nat)) .exact = final)
    (positive : 0 < final.1.mantissa) :
    roundWithAccuracy .binary64 sign m e .exact =
      .finite sign final.1.mantissa final.2 positive := by
  subst hrounded hfinal
  simp only [roundWithAccuracy, shiftToTargetExponent_eq hm he, dif_neg positive.ne']

/-- A number that fits is not rounded. -/
theorem roundWithAccuracy_self (sign : Sign) (positive : 0 < m) (hm : m.log2 = 52)
    (he : -1074 ≤ e) :
    roundWithAccuracy .binary64 sign m e .exact = .finite sign m e positive := by
  have hrounded : (ExtendedMantissa.mk m false false >>> (m.log2 - 52)).roundedMantissa = m := by
    rw [hm]
    rfl
  have hfinal : shiftToTargetExponent .binary64 m (e + (m.log2 - 52 : Nat)) .exact =
      (⟨m, false, false⟩, e) := by
    rw [hm, Nat.sub_self, Nat.cast_zero, add_zero]
    exact shiftToTargetExponent_self hm he
  exact roundWithAccuracy_eq sign hm.ge he hrounded hfinal positive

/-- Rounding to a multiple of a power of two, up or down, is off by at most one in the last place,
if there are enough places. -/
theorem within_of_rounded {r k : Nat} (hlow : m / 2 ^ k ≤ r) (hhigh : r ≤ m / 2 ^ k + 1)
    (hplaces : 2 ^ 52 ≤ m / 2 ^ k) (e : Int) :
    Within lastPlace (r * 2 ^ (e + k)) (m * 2 ^ e) := by
  have hpower : 0 < 2 ^ k := Nat.two_pow_pos k
  -- In units of the last place.
  have hbelow : r * 2 ^ k ≤ m + 2 ^ k :=
    calc r * 2 ^ k ≤ (m / 2 ^ k + 1) * 2 ^ k := Nat.mul_le_mul_right _ hhigh
      _ = m / 2 ^ k * 2 ^ k + 2 ^ k := by rw [Nat.add_mul, Nat.one_mul]
      _ ≤ m + 2 ^ k := Nat.add_le_add_right (Nat.div_mul_le_self _ _) _
  have habove : m ≤ r * 2 ^ k + 2 ^ k :=
    calc m ≤ m / 2 ^ k * 2 ^ k + 2 ^ k := (Nat.lt_div_mul_add hpower).le
      _ ≤ r * 2 ^ k + 2 ^ k := Nat.add_le_add_right (Nat.mul_le_mul_right _ hlow) _
  have hunit : 2 ^ 52 * 2 ^ k ≤ m := (Nat.le_div_iff_mul_le hpower).mp hplaces
  have hbelow : (r : ℚ) * 2 ^ k ≤ m + 2 ^ k := by exact_mod_cast hbelow
  have habove : (m : ℚ) ≤ r * 2 ^ k + 2 ^ k := by exact_mod_cast habove
  have hunit : (2 : ℚ) ^ 52 * 2 ^ k ≤ m := by exact_mod_cast hunit
  have hplace : (2 : ℚ) ^ k ≤ m * lastPlace := by
    rw [lastPlace, mul_one_div, le_div_iff₀ (by positivity), mul_comm]
    exact hunit
  have hscale : (0 : ℚ) ≤ 2 ^ e := by positivity
  have hsplit : (r : ℚ) * 2 ^ (e + k) = r * 2 ^ k * 2 ^ e := by
    rw [zpow_add₀ two_ne_zero, zpow_natCast]
    ring
  constructor
  · calc (m : ℚ) * 2 ^ e * (1 - lastPlace) = (m - m * lastPlace) * 2 ^ e := by ring
      _ ≤ r * 2 ^ k * 2 ^ e := mul_le_mul_of_nonneg_right (by linarith) hscale
      _ = r * 2 ^ (e + k) := hsplit.symm
  · calc (r : ℚ) * 2 ^ (e + k) = r * 2 ^ k * 2 ^ e := hsplit
      _ ≤ (m + m * lastPlace) * 2 ^ e := mul_le_mul_of_nonneg_right (by linarith) hscale
      _ = m * 2 ^ e * (1 + lastPlace) := by ring

/-- A number with enough bits is rounded to one that fits, off by at most one in the last place. -/
theorem exists_roundWithAccuracy (sign : Sign) (hm : 52 ≤ m.log2) (he : -1074 ≤ e) :
    ∃ mantissa exponent positive,
      roundWithAccuracy .binary64 sign m e .exact = .finite sign mantissa exponent positive ∧
        mantissa.log2 = 52 ∧ e ≤ exponent ∧
        Within lastPlace (mantissa * 2 ^ exponent) (m * 2 ^ e) := by
  obtain ⟨hplaces, hfits⟩ := shifted_bounds hm
  obtain ⟨r, hrounded⟩ :
      ∃ r, (ExtendedMantissa.mk m false false >>> (m.log2 - 52)).roundedMantissa = r := ⟨_, rfl⟩
  have hbounds := roundedMantissa_bounds (ExtendedMantissa.mk m false false >>> (m.log2 - 52))
  rw [hrounded, mantissa_shiftRight] at hbounds
  obtain ⟨hlow, hhigh⟩ : m / 2 ^ (m.log2 - 52) ≤ r ∧ r ≤ m / 2 ^ (m.log2 - 52) + 1 := hbounds
  have hround := @roundWithAccuracy_eq m e sign hm he r hrounded
  have hwithin := within_of_rounded hlow hhigh hplaces e
  rcases Nat.lt_or_ge r (2 ^ 53) with hr | hr
  · have hlog : r.log2 = 52 := log2_of_bounds (by omega) hr
    exact ⟨r, _, by omega, hround (shiftToTargetExponent_self hlog (by omega)) _, hlog, by omega,
      hwithin⟩
  · -- All bits are set and it is rounded up: there is one bit more.
    obtain rfl : r = 2 ^ 53 := by omega
    have hlog : (2 ^ 53 : Nat).log2 = 53 := Nat.log2_two_pow
    have hshift : shiftToTargetExponent .binary64 (2 ^ 53) (e + (m.log2 - 52 : Nat)) .exact =
        (⟨2 ^ 52, false, false⟩, e + (m.log2 - 52 : Nat) + 1) := by
      rw [shiftToTargetExponent_eq (by rw [hlog]; decide) (by omega), hlog]
      rfl
    have hpositive : 0 < 2 ^ 52 := by decide
    refine ⟨2 ^ 52, _, hpositive, hround hshift hpositive, Nat.log2_two_pow, by omega, ?_⟩
    convert hwithin using 1
    push_cast
    rw [zpow_add₀ two_ne_zero (e + _) 1]
    ring

/-! ### Packing -/

/-- The bit in front of the mantissa is set, and is not packed. -/
theorem toNat_implicit_append (hm : m.log2 = 52) : (1#1 ++ BitVec.ofNat 52 m).toNat = m := by
  obtain ⟨hlow, hhigh⟩ := bounds_of_log2 hm
  rw [BitVec.toNat_append, ← Nat.shiftLeft_add_eq_or_of_lt (BitVec.isLt _), BitVec.toNat_ofNat]
  simp only [Nat.shiftLeft_eq, BitVec.toNat_ofNat]
  omega

/-- The exponent of a normal number is packed as it is, and is neither of those that are kept for
other numbers. -/
theorem packed_exponent {k : Nat} (hpos : 0 < k) (hk : k < 2047) :
    (BitVec.ofNat 11 k).toNat = k ∧ BitVec.ofNat 11 k ≠ 0#11 ∧ BitVec.ofNat 11 k ≠ -1#11 := by
  have hvalue : (BitVec.ofNat 11 k).toNat = k := by
    rw [BitVec.toNat_ofNat, Nat.mod_eq_of_lt (by omega)]
  refine ⟨hvalue, fun hzero => ?_, fun hones => ?_⟩
  · rw [hzero, BitVec.toNat_zero] at hvalue
    omega
  · rw [hones, BitVec.neg_one_eq_allOnes, BitVec.toNat_allOnes] at hvalue
    omega

/-- What fits is the same when it is unpacked again, unless its exponent is too large. -/
theorem unpack_pack (sign : Sign) (positive : 0 < m) (hm : m.log2 = 52) (hlow : -1074 ≤ e)
    (hhigh : e ≤ 971) :
    (Float.Model.pack (.finite sign m e positive)).unpack = .finite sign m e positive := by
  -- The exponent of the first bit, with the bias.
  obtain ⟨k, hk⟩ : ∃ k, (e + 1023 + 52).toNat = k := ⟨_, rfl⟩
  obtain ⟨hexponent, hzero, hones⟩ := @packed_exponent k (by omega) (by omega)
  have hpack : UnpackedFloat.pack .binary64 (.finite sign m e positive) =
      packComponents .binary64 sign (BitVec.ofNat 11 k) (BitVec.ofNat 52 m) := by
    have hfits : ¬2 ^ 11 ≤ (e + 1023 + 52).toNat + 1 := by omega
    show (if 2 ^ 11 ≤ (e + 1023 + 52).toNat + 1 then _ else if m.log2 + 1 = 53 then _ else _) = _
    rw [if_neg hfits, if_pos (by rw [hm]), ← hk]
    rfl
  show UnpackedFloat.unpack .binary64 (UnpackedFloat.pack .binary64 _) = _
  rw [hpack]
  simp only [UnpackedFloat.unpack, unpackExponent_packComponents, unpackMantissa_packComponents,
    unpackSign_packComponents, Sign.ofBitVec_toBitVec, if_neg hones, if_neg hzero, hexponent,
    toNat_implicit_append hm]
  congr 1
  simp only [Format.exponentBias]
  omega

/-- What is too large for the format is infinite. -/
theorem unpack_pack_of_large (sign : Sign) (positive : 0 < m) (he : 972 ≤ e) :
    (Float.Model.pack (.finite sign m e positive)).unpack = .infinity sign := by
  have hpack : UnpackedFloat.pack .binary64 (.finite sign m e positive) =
      packedInfinity .binary64 sign := by
    have hlarge : 2 ^ 11 ≤ (e + 1023 + 52).toNat + 1 := by omega
    show (if 2 ^ 11 ≤ (e + 1023 + 52).toNat + 1 then _ else _) = _
    rw [if_pos hlarge]
  show UnpackedFloat.unpack .binary64 (UnpackedFloat.pack .binary64 _) = _
  rw [hpack]
  cases sign <;> rfl

end TemplateCatalog.Decimal
