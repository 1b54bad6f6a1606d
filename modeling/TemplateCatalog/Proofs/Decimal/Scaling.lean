import TemplateCatalog.Proofs.Decimal.Rounding

/-!
# Scaled decimals

Digits that are scaled by a power of ten, as floating point numbers. The digits and the power are
rounded, and so is their product: three steps, each of which is off by at most one in the last
place. So the product is finite if it is below the bound of the finite numbers by more than that,
and infinite if it is above the bound by more than that.

The module introduces:

* `IsSize`: a floating point number is a positive rational number;
* `floatBound`: the bound that the finite numbers lie below.

Main statements:

* `exists_isSize_ofScientific`: the floating point number of digits and a power of ten.
* `IsSize.mul`: the product of floating point numbers, and when it is infinite.
* `isSome_scaled?`, `scaled?_eq_none`: when scaled digits are finite, and when they are not.
-/

namespace TemplateCatalog.Decimal

open Float.Model (Format totalExponent UnpackedFloat)
open Float.Model.UnpackedFloat

/-- The floating point number is the positive rational number, and all bits of its mantissa are in
use. -/
def IsSize (x : Float) (size : ℚ) : Prop :=
  ∃ mantissa exponent positive,
    x.toModel.unpack = .finite .positive mantissa exponent positive ∧ mantissa.log2 = 52 ∧
      size = mantissa * 2 ^ exponent

/-- The bound that the finite numbers lie below. -/
def floatBound : ℚ :=
  2 ^ 1024

theorem floatBound_eq : floatBound = (2 ^ 256) ^ 4 := by
  rw [floatBound, ← pow_mul]

theorem floatBound_pos : 0 < floatBound :=
  pow_pos two_pos _

variable {x y : Float} {a b : ℚ} {m : Nat} {e : Int}

/-- A number with 53 bits is bounded by the power of two behind its exponent. -/
theorem lt_two_zpow_of_log2 (hm : m.log2 = 52) : (m : ℚ) * 2 ^ e < 2 ^ (e + 53) := by
  have hfits : (m : ℚ) < 2 ^ 53 := by exact_mod_cast (bounds_of_log2 hm).2
  calc (m : ℚ) * 2 ^ e < 2 ^ 53 * 2 ^ e := mul_lt_mul_of_pos_right hfits (by positivity)
    _ = 2 ^ (e + 53) := by rw [zpow_add₀ two_ne_zero, mul_comm]; rfl

theorem two_zpow_le_of_log2 (hm : m.log2 = 52) : (2 : ℚ) ^ (e + 52) ≤ m * 2 ^ e := by
  have hplaces : (2 : ℚ) ^ 52 ≤ m := by exact_mod_cast (bounds_of_log2 hm).1
  calc (2 : ℚ) ^ (e + 52) = 2 ^ 52 * 2 ^ e := by rw [zpow_add₀ two_ne_zero, mul_comm]; rfl
    _ ≤ m * 2 ^ e := mul_le_mul_of_nonneg_right hplaces (by positivity)

/-- A number that fits is beyond the finite ones if its exponent is. -/
theorem floatBound_le_iff (hm : m.log2 = 52) : floatBound ≤ m * 2 ^ e ↔ 972 ≤ e := by
  constructor
  · intro hbound
    have hlt : (2 : ℚ) ^ (1024 : Int) < 2 ^ (e + 53) := hbound.trans_lt (lt_two_zpow_of_log2 hm)
    have := (zpow_lt_zpow_iff_right₀ one_lt_two).mp hlt
    omega
  · intro he
    have hle : (2 : ℚ) ^ (1024 : Int) ≤ 2 ^ (e + 52) :=
      zpow_le_zpow_right₀ one_le_two (by omega)
    exact hle.trans (two_zpow_le_of_log2 hm)

/-- The exponent of a number that is not small is not small either. -/
theorem le_exponent_of_log2 (hm : m.log2 = 52) (hsize : 1 / 2 ≤ (m : ℚ) * 2 ^ e) : -53 ≤ e := by
  have hlt : (2 : ℚ) ^ (-1 : Int) < 2 ^ (e + 53) := by
    refine lt_of_le_of_lt ?_ (lt_two_zpow_of_log2 hm)
    rwa [zpow_neg_one, inv_eq_one_div]
  have := (zpow_lt_zpow_iff_right₀ one_lt_two).mp hlt
  omega

/-- The result of rounding is off by at most one in the last place, and it is infinite if it is not
below the bound of the finite numbers. -/
theorem exists_within_of_rounded
    (hx : x.toModel = .pack (roundWithAccuracy .binary64 .positive m e .exact))
    (hm : 52 ≤ m.log2) (he : -1074 ≤ e) :
    ∃ size, Within lastPlace size (m * 2 ^ e) ∧ (x.isInf = true ↔ floatBound ≤ size) ∧
      (size < floatBound → IsSize x size) := by
  obtain ⟨mantissa, exponent, positive, hround, hlog, hexponent, hwithin⟩ :=
    exists_roundWithAccuracy .positive hm he
  rw [hround] at hx
  refine ⟨_, hwithin, ?_, fun hsize => ⟨mantissa, exponent, positive, ?_, hlog, rfl⟩⟩
  · show x.toModel.unpack.isInf = true ↔ _
    rw [floatBound_le_iff hlog, hx]
    rcases lt_or_ge exponent 972 with hsmall | hlarge
    · rw [unpack_pack .positive positive hlog (by omega) (by omega)]
      exact iff_of_false Bool.false_ne_true (by omega)
    · rw [unpack_pack_of_large .positive positive hlarge]
      exact iff_of_true rfl hlarge
  · have hsmall := mt (floatBound_le_iff hlog).mpr (not_le.mpr hsize)
    rw [hx]
    exact unpack_pack .positive positive hlog (by omega) (by omega)

/-- A product is off by at most one in the last place, and it is infinite if it is not below the
bound of the finite numbers. -/
theorem IsSize.mul (hx : IsSize x a) (hy : IsSize y b) (ha : 1 / 2 ≤ a) (hb : 1 / 2 ≤ b) :
    ∃ size, Within lastPlace size (a * b) ∧ ((x * y).isInf = true ↔ floatBound ≤ size) ∧
      (size < floatBound → IsSize (x * y) size) := by
  obtain ⟨m, e, hm, hunpackx, hlogx, rfl⟩ := hx
  obtain ⟨n, f, hn, hunpacky, hlogy, rfl⟩ := hy
  have he := le_exponent_of_log2 hlogx ha
  have hf := le_exponent_of_log2 hlogy hb
  have hmul : (x * y).toModel =
      .pack (roundWithAccuracy .binary64 .positive (m * n) (e + f) .exact) := by
    show Float.Model.pack (UnpackedFloat.mul .binary64 x.toModel.unpack y.toModel.unpack) = _
    rw [hunpackx, hunpacky]
    rfl
  have hlog : 52 ≤ (m * n).log2 := by
    rw [Nat.le_log2 (Nat.mul_pos hm hn).ne']
    exact (bounds_of_log2 hlogx).1.trans (Nat.le_mul_of_pos_right m hn)
  have hvalue : (m : ℚ) * 2 ^ e * (n * 2 ^ f) = ((m * n : Nat) : ℚ) * 2 ^ (e + f) := by
    rw [zpow_add₀ two_ne_zero, Nat.cast_mul]
    ring
  rw [hvalue]
  exact exists_within_of_rounded hmul hlog (by omega)

/-! ### Digits and powers of ten -/

variable {digits n : Nat}

theorem log2_shiftLeft (hpos : 0 < n) (k : Nat) : (n <<< k).log2 = n.log2 + k := by
  induction k with
  | zero => rfl
  | succ k ih =>
    have hne : n <<< k ≠ 0 := by
      rw [Nat.shiftLeft_eq]
      exact (Nat.mul_pos hpos (Nat.two_pow_pos k)).ne'
    rw [Nat.shiftLeft_succ, Nat.log2_two_mul hne, ih, Nat.add_assoc]

/-- An integer of 53 bits is shifted until it has just as many bits as fit. -/
theorem ofNat_eq {k : Nat} (hpos : 0 < n) (hk : n.log2 + k = 52) (positive : 0 < n <<< k) :
    UnpackedFloat.ofNat .binary64 n = .finite .positive (n <<< k) (-k) positive := by
  have hcompare : compare (n : Int) 0 = .gt := Int.compare_eq_gt.mpr (by omega)
  have htarget : Format.binary64.targetExponent (totalExponent n 0) = -(k : Int) := by
    simp only [Format.targetExponent, totalExponent, Format.mantissaBits, Format.minExponent]
    omega
  have hdecrease : decreaseExponent n 0 (-(k : Int)) = (n <<< k, -(k : Int)) := by
    simp only [decreaseExponent, zero_sub, neg_neg, Int.toNat_natCast]
  simp only [UnpackedFloat.ofNat, UnpackedFloat.ofInt, UnpackedFloat.normalize, hcompare,
    UnpackedFloat.round, Int.toNat_natCast, htarget, hdecrease]
  exact roundWithAccuracy_self .positive positive (by rw [log2_shiftLeft hpos, hk]) (by omega)

/-- An integer of 53 bits is a floating point number. -/
theorem isSize_toFloat (hpos : 0 < n) (hfits : n < 2 ^ 53) :
    IsSize n.toUInt64.toFloat n := by
  obtain ⟨k, hk⟩ := Nat.exists_eq_add_of_le (Nat.le_of_lt_succ ((Nat.log2_lt hpos.ne').mpr hfits))
  have hlog : (n <<< k).log2 = 52 := (log2_shiftLeft hpos k).trans hk.symm
  have positive : 0 < n <<< k := by
    rw [Nat.shiftLeft_eq]
    exact Nat.mul_pos hpos (Nat.two_pow_pos k)
  have hbits : n.toUInt64.toNat = n := by
    rw [Nat.toUInt64_eq, UInt64.toNat_ofNat', Nat.mod_eq_of_lt (by omega)]
  have hmodel : n.toUInt64.toFloat.toModel = .pack (.finite .positive (n <<< k) (-k) positive) := by
    show Float.Model.pack (UnpackedFloat.ofNat .binary64 n.toUInt64.toNat) = _
    rw [hbits, ofNat_eq hpos hk.symm positive]
  refine ⟨n <<< k, -k, positive, ?_, hlog, ?_⟩
  · rw [hmodel]
    exact unpack_pack .positive positive hlog (by omega) (by omega)
  · rw [Nat.shiftLeft_eq, Nat.cast_mul, Nat.cast_pow, zpow_neg, zpow_natCast]
    exact (mul_inv_cancel_right₀ (pow_ne_zero _ two_ne_zero) _).symm

/-- The floating point number is the positive integer, as a check on its parts. -/
def isInteger (x : Float) (n : Nat) : Bool :=
  match x.toModel.unpack with
  | .finite .positive mantissa exponent _ =>
    mantissa.log2 == 52 && mantissa * 2 ^ exponent.toNat == n * 2 ^ (-exponent).toNat
  | _ => false

theorem isSize_of_isInteger (hinteger : isInteger x n = true) : IsSize x n := by
  unfold isInteger at hinteger
  split at hinteger
  · next mantissa exponent positive hunpack =>
    simp only [Bool.and_eq_true, beq_iff_eq] at hinteger
    obtain ⟨hlog, hvalue⟩ := hinteger
    refine ⟨mantissa, exponent, positive, hunpack, hlog, ?_⟩
    have hvalue : (mantissa : ℚ) * 2 ^ exponent.toNat = n * 2 ^ (-exponent).toNat := by
      exact_mod_cast hvalue
    have hexponent : (2 : ℚ) ^ exponent = 2 ^ exponent.toNat / 2 ^ (-exponent).toNat := by
      rw [← zpow_natCast, ← zpow_natCast, ← zpow_sub₀ two_ne_zero]
      congr 1
      omega
    rw [hexponent, ← mul_div_assoc, hvalue, mul_div_cancel_right₀ _ (by positivity)]
  · cases hinteger

/-- The powers of ten that are floating point numbers are kept in a table. -/
theorem isSize_exactlyRepresentablePowersOfTen :
    ∀ (n : Nat) (h : n < Float.exactlyRepresentablePowersOfTen.size),
      IsSize Float.exactlyRepresentablePowersOfTen[n] ((10 ^ n : Nat) : ℚ) := by
  -- The check is on integers, so that it can be decided.
  have hall : ∀ n : Fin Float.exactlyRepresentablePowersOfTen.size,
      isInteger Float.exactlyRepresentablePowersOfTen[n] (10 ^ n.val) = true := by
    decide +kernel
  exact fun n h => isSize_of_isInteger (hall ⟨n, h⟩)

/-- Digits whose product with a power of ten is not a table lookup are rounded with that product,
all at once. -/
theorem ofScientific_eq (hpos : 0 < digits) (hn : n ≤ 2048) :
    UnpackedFloat.ofScientific .binary64 digits n =
      roundWithAccuracy .binary64 .positive (digits <<< 53 * 10 ^ n) (-53) .exact := by
  have hlarge : ¬(n : Int) > 2 ^ 11 := by omega
  have hsmall : ¬(n : Int) < -((2 ^ 11 : Int) + digits.log2) := by omega
  simp only [UnpackedFloat.ofScientific, dif_neg hpos.ne', if_neg hlarge, if_neg hsmall,
    if_pos (Int.natCast_nonneg n), Int.toNat_natCast]
  rfl

/-- The 53 places that the digits are shifted by before they are rounded are taken back. -/
theorem shiftLeft_mul_zpow_neg (digits power : Nat) :
    ((digits <<< 53 * power : Nat) : ℚ) * 2 ^ (-53 : Int) = digits * power := by
  have hscale : (2 : ℚ) ^ (53 : Int) ≠ 0 := zpow_ne_zero _ two_ne_zero
  have hcast : (((2 ^ 53 : Nat)) : ℚ) = 2 ^ (53 : Int) := by
    rw [Nat.cast_pow]
    rfl
  rw [Nat.shiftLeft_eq, Nat.cast_mul, Nat.cast_mul, hcast, zpow_neg, mul_right_comm,
    mul_inv_cancel_right₀ hscale]

theorem le_log2_shiftLeft_mul {power : Nat} (hpos : 0 < digits) (hpower : 0 < power) :
    52 ≤ (digits <<< 53 * power).log2 := by
  have hproduct : 2 ^ 52 ≤ digits <<< 53 * power := by
    rw [Nat.shiftLeft_eq]
    calc 2 ^ 52 ≤ digits * 2 ^ 53 := by omega
      _ ≤ digits * 2 ^ 53 * power := Nat.le_mul_of_pos_right _ hpower
  exact (Nat.le_log2 (by omega)).mpr hproduct

/-- The floating point number of digits and a power of ten is off by at most one in the last
place. -/
theorem exists_isSize_ofScientific (hpos : 0 < digits) (hn : n ≤ 2048) :
    ∃ size, Within lastPlace size (digits * 10 ^ n) ∧
      (size < floatBound → IsSize (Float.ofScientific digits false n) size) := by
  have hpower : 0 < 10 ^ n := Nat.pow_pos (by decide)
  have hcast : ((10 ^ n : Nat) : ℚ) = 10 ^ n := by rw [Nat.cast_pow, Nat.cast_ofNat]
  unfold Float.ofScientific
  split
  · -- Small digits and a small power are both in use as they are: only their product is rounded.
    next hfast =>
    have hone : (1 : ℚ) ≤ digits := by exact_mod_cast hpos
    have hten : (1 : ℚ) ≤ ((10 ^ n : Nat) : ℚ) := by exact_mod_cast hpower
    obtain ⟨size, hwithin, -, hsize⟩ := (isSize_toFloat hpos hfast.1).mul
      (isSize_exactlyRepresentablePowersOfTen n (Nat.lt_succ_of_le hfast.2)) (by linarith)
      (by linarith)
    rw [hcast] at hwithin
    exact ⟨size, hwithin, hsize⟩
  · have hrounded : (Float.ofModel (Float.Model.ofScientific digits n)).toModel =
        .pack (roundWithAccuracy .binary64 .positive (digits <<< 53 * 10 ^ n) (-53) .exact) :=
      congrArg Float.Model.pack (ofScientific_eq hpos hn)
    obtain ⟨size, hwithin, -, hsize⟩ :=
      exists_within_of_rounded hrounded (le_log2_shiftLeft_mul hpos hpower) (by omega)
    rw [shiftLeft_mul_zpow_neg, hcast] at hwithin
    exact ⟨size, hwithin, hsize⟩

/-! ### Scaled digits -/

theorem unpack_zero : (0 : Float).toModel.unpack = .zero .positive := by
  rfl

theorem IsSize.ne_zero (hx : IsSize x a) : (x == 0) = false := by
  obtain ⟨mantissa, exponent, positive, hunpack, -⟩ := hx
  show (x.toModel.unpack.beq (0 : Float).toModel.unpack) = false
  rw [hunpack, unpack_zero]
  rfl

theorem IsSize.isInf_zero_mul (hx : IsSize x a) : (0 * x).isInf = false := by
  obtain ⟨mantissa, exponent, positive, hunpack, -⟩ := hx
  have hmul : UnpackedFloat.mul .binary64 (0 : Float).toModel.unpack x.toModel.unpack =
      .zero .positive := by
    rw [hunpack, unpack_zero]
    rfl
  show (UnpackedFloat.unpack .binary64 (UnpackedFloat.pack .binary64
    (UnpackedFloat.mul .binary64 _ _))).isInf = false
  rw [hmul, UnpackedFloat.pack, unpack_packedZero]
  rfl

theorem exists_isSize_ofNat (hpos : 0 < digits) (hbits : digits < 2 ^ 64) :
    ∃ size, IsSize (Float.ofNat digits) size ∧ Within lastPlace size digits := by
  obtain ⟨size, hwithin, hsize⟩ := exists_isSize_ofScientific hpos (Nat.zero_le 2048)
  rw [pow_zero, mul_one] at hwithin
  have hbits : (digits : ℚ) < 2 ^ 64 := by exact_mod_cast hbits
  refine ⟨size, hsize ?_, hwithin⟩
  calc size ≤ digits * (1 + lastPlace) := hwithin.2
    _ < 2 ^ 64 * (1 + lastPlace) := mul_lt_mul_of_pos_right hbits (by norm_num [lastPlace])
    _ ≤ floatBound := by norm_num [lastPlace, floatBound_eq]

theorem exists_isSize_powerOfTen (hn : n ≤ 308) :
    ∃ size, IsSize (powerOfTen n) size ∧ Within lastPlace size (10 ^ n) := by
  obtain ⟨size, hwithin, hsize⟩ := exists_isSize_ofScientific Nat.one_pos (hn.trans (by decide))
  rw [Nat.cast_one, one_mul] at hwithin
  refine ⟨size, hsize ?_, hwithin⟩
  have hten : (10 : ℚ) ^ n ≤ 10 ^ 308 := pow_le_pow_right₀ (by norm_num) hn
  calc size ≤ 10 ^ n * (1 + lastPlace) := hwithin.2
    _ ≤ 10 ^ 308 * (1 + lastPlace) := mul_le_mul_of_nonneg_right hten (by norm_num [lastPlace])
    _ = (10 ^ 154) ^ 2 * (1 + lastPlace) := by rw [← pow_mul]
    _ < floatBound := by norm_num [lastPlace, floatBound_eq]

/-- Digits multiplied with a power of ten are off by three in the last place at most. -/
theorem exists_isInf_mul_powerOfTen_iff (hpos : 0 < digits) (hbits : digits < 2 ^ 64)
    (hn : n ≤ 308) :
    ∃ size : ℚ, digits * 10 ^ n * (1 - lastPlace) ^ 3 ≤ size ∧
      size ≤ digits * 10 ^ n * (1 + lastPlace) ^ 3 ∧
      ((Float.ofNat digits * powerOfTen n).isInf = true ↔ floatBound ≤ size) := by
  obtain ⟨a, hx, ha⟩ := exists_isSize_ofNat hpos hbits
  obtain ⟨b, hy, hb⟩ := exists_isSize_powerOfTen hn
  have hdigits : (1 : ℚ) ≤ digits := by exact_mod_cast hpos
  have hten : (1 : ℚ) ≤ 10 ^ n := one_le_pow₀ (by norm_num)
  have hbelow : (0 : ℚ) ≤ 1 - lastPlace := by norm_num [lastPlace]
  have habove : (0 : ℚ) ≤ 1 + lastPlace := by norm_num [lastPlace]
  have hhalf : ∀ c : ℚ, 1 ≤ c → 1 / 2 ≤ c * (1 - lastPlace) := fun c hc =>
    calc (1 : ℚ) / 2 ≤ 1 * (1 - lastPlace) := by norm_num [lastPlace]
      _ ≤ c * (1 - lastPlace) := mul_le_mul_of_nonneg_right hc hbelow
  have ha0 : 1 / 2 ≤ a := (hhalf _ hdigits).trans ha.1
  have hb0 : 1 / 2 ≤ b := (hhalf _ hten).trans hb.1
  -- Each of the two factors is rounded once, and their product once more.
  obtain ⟨size, hwithin, hinf, -⟩ := hx.mul hy ha0 hb0
  refine ⟨size, ?_, ?_, hinf⟩
  · calc (digits : ℚ) * 10 ^ n * (1 - lastPlace) ^ 3
        = digits * (1 - lastPlace) * (10 ^ n * (1 - lastPlace)) * (1 - lastPlace) := by ring
      _ ≤ a * b * (1 - lastPlace) := by
        refine mul_le_mul_of_nonneg_right (mul_le_mul ha.1 hb.1 ?_ ?_) hbelow <;> positivity
      _ ≤ size := hwithin.1
  · calc size ≤ a * b * (1 + lastPlace) := hwithin.2
      _ ≤ digits * (1 + lastPlace) * (10 ^ n * (1 + lastPlace)) * (1 + lastPlace) := by
        refine mul_le_mul_of_nonneg_right (mul_le_mul ha.2 hb.2 ?_ ?_) habove <;> positivity
      _ = digits * 10 ^ n * (1 + lastPlace) ^ 3 := by ring

variable {exponent : Int}

/-- Digits that are scaled beyond all powers of ten that are finite are beyond the finite
numbers. -/
theorem floatBound_lt_of_large (hpos : 0 < digits) (hlarge : 308 < exponent) :
    floatBound * 2 < digits * 10 ^ exponent := by
  have hdigits : (1 : ℚ) ≤ digits := by exact_mod_cast hpos
  have hten : (10 : ℚ) ^ (309 : Int) ≤ 10 ^ exponent :=
    zpow_le_zpow_right₀ (by norm_num) (by omega)
  calc floatBound * 2 < (10 ^ 103) ^ 3 := by norm_num [floatBound_eq]
    _ = 1 * 10 ^ (309 : Int) := by rw [← pow_mul, one_mul]; rfl
    _ ≤ digits * 10 ^ exponent := mul_le_mul hdigits hten (by positivity) (by positivity)

/-- Digits that are scaled to a number below the bound, by more than rounding is off, are finite. -/
theorem isSome_scaled? (hbits : digits < 2 ^ 64)
    (hsize : digits * 10 ^ exponent * (1 + lastPlace) ^ 3 < floatBound) :
    (scaled? digits exponent).isSome = true := by
  have hfinite : ¬exponent < 0 → exponent ≤ 308 →
      (Float.ofNat digits * powerOfTen exponent.toNat).isInf = false := by
    intro hneg hn
    rcases Nat.eq_zero_or_pos digits with rfl | hpos
    · obtain ⟨size, hx, -⟩ := @exists_isSize_powerOfTen exponent.toNat (by omega)
      exact hx.isInf_zero_mul
    · obtain ⟨size, -, hle, hinf⟩ :=
        exists_isInf_mul_powerOfTen_iff hpos hbits (show exponent.toNat ≤ 308 by omega)
      rw [← zpow_natCast, Int.toNat_of_nonneg (not_lt.mp hneg)] at hle
      exact Bool.eq_false_iff.mpr fun h => absurd (hinf.mp h) (not_le.mpr (hle.trans_lt hsize))
  -- Beyond the last finite power of ten only zero is finite.
  have hzero : ¬exponent ≤ 308 → digits = 0 := by
    intro hlarge
    by_contra hne
    have hbound : floatBound < digits * 10 ^ exponent * (1 + lastPlace) ^ 3 :=
      calc floatBound < floatBound * 2 := lt_mul_of_one_lt_right floatBound_pos one_lt_two
        _ < digits * 10 ^ exponent :=
          floatBound_lt_of_large (Nat.pos_of_ne_zero hne) (not_le.mp hlarge)
        _ ≤ digits * 10 ^ exponent * (1 + lastPlace) ^ 3 :=
          le_mul_of_one_le_right (by positivity) (by norm_num [lastPlace])
    exact hbound.not_gt hsize
  unfold scaled?
  by_cases hneg : exponent < 0
  · simp only [if_pos hneg, Option.isSome_some]
  · by_cases hn : exponent ≤ 308
    · simp only [if_neg hneg, if_pos hn, hfinite hneg hn, if_neg Bool.false_ne_true,
        Option.isSome_some]
    · obtain rfl := hzero hn
      simp only [if_neg hneg, if_neg hn]
      rfl

/-- Digits that are scaled to a number above the bound, by more than rounding is off, are not
finite. -/
theorem scaled?_eq_none (hbits : digits < 2 ^ 64)
    (hsize : floatBound ≤ digits * 10 ^ exponent * (1 - lastPlace) ^ 3) :
    scaled? digits exponent = none := by
  have hpos : 0 < digits := by
    rw [Nat.pos_iff_ne_zero]
    rintro rfl
    rw [Nat.cast_zero, zero_mul, zero_mul] at hsize
    exact absurd hsize (not_le.mpr floatBound_pos)
  -- Digits that are scaled down are below the bound, since they fit into 64 bits.
  have hneg : ¬exponent < 0 := by
    intro hneg
    have hdigits : (digits : ℚ) < 2 ^ 64 := by exact_mod_cast hbits
    have hten : (10 : ℚ) ^ exponent ≤ 1 := zpow_le_one_of_nonpos₀ (by norm_num) hneg.le
    have hone : (1 - lastPlace) ^ 3 ≤ (1 : ℚ) := by norm_num [lastPlace]
    have hlt : (digits : ℚ) * 10 ^ exponent * (1 - lastPlace) ^ 3 < floatBound :=
      calc (digits : ℚ) * 10 ^ exponent * (1 - lastPlace) ^ 3
          ≤ digits * 10 ^ exponent * 1 := mul_le_mul_of_nonneg_left hone (by positivity)
        _ ≤ digits * 1 * 1 := by gcongr
        _ < floatBound := by
          rw [mul_one, mul_one, floatBound_eq]
          exact hdigits.trans (by norm_num)
    exact absurd hsize (not_le.mpr hlt)
  unfold scaled?
  by_cases hn : exponent ≤ 308
  · obtain ⟨size, hle, -, hinf⟩ :=
      exists_isInf_mul_powerOfTen_iff hpos hbits (show exponent.toNat ≤ 308 by omega)
    rw [← zpow_natCast, Int.toNat_of_nonneg (not_lt.mp hneg)] at hle
    simp only [if_neg hneg, if_pos hn, hinf.mpr (hsize.trans hle), if_true]
  · obtain ⟨size, hx, -⟩ := exists_isSize_ofNat hpos hbits
    simp only [if_neg hneg, if_neg hn, hx.ne_zero, if_neg Bool.false_ne_true]

end TemplateCatalog.Decimal
