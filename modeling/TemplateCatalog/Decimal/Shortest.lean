import TemplateCatalog.Power

/-!
# Shortest decimals

The decimal with the fewest digits that identifies a binary floating point number, found by exact
arithmetic on natural numbers. The reals that round to a number form an interval; the digits are
those of the coarsest decimal grid with a point in that interval, and of two such points the one
nearer to the number.

Main statement: `readsBack_of_onGrid?`, what a grid offers for a number lies in the number's
interval.
-/

namespace TemplateCatalog.Decimal

/-- A finite non-negative binary floating point number, `mantissa * 2 ^ exponent`. -/
structure Binary where
  /-- The significant bits. -/
  mantissa : Nat
  /-- The power of two. -/
  exponent : Int
  /-- The gap to the number below is half the gap to the number above. -/
  narrowBelow : Bool

/-- The absolute value of the number with the given bits, which are those of a finite one. -/
def Binary.ofBits (bits : UInt64) : Binary :=
  let exponent := ((bits >>> 52) &&& 0x7FF).toNat
  let fraction := (bits &&& 0xFFFFFFFFFFFFF).toNat
  if exponent = 0 then ⟨fraction, -1074, false⟩
  else ⟨twoTo 52 + fraction, (exponent : Int) - 1075, fraction == 0 && exponent > 1⟩

/-- A decimal, `digits * 10 ^ exponent`. -/
structure Digits where
  /-- The digits, read as one number. -/
  digits : Nat
  /-- The power of ten. -/
  exponent : Int
  deriving DecidableEq, Repr

/-- What becomes of a number that lies halfway between two shortest decimals. -/
inductive Tie where
  /-- The decimal with the even last digit is taken. -/
  | toEven
  /-- The greater decimal is taken. -/
  | upward
  deriving DecidableEq

/-- Compare `a * 10 ^ i` with `n * 2 ^ j`. -/
def compareScaled (a : Nat) (i : Int) (n : Nat) (j : Int) : Ordering :=
  compare (a * tenTo i.toNat * twoTo (-j).toNat) (n * twoTo j.toNat * tenTo (-i).toNat)

/-- The decimal lies among the reals that round to the number, to nearest with ties to even. -/
def Binary.readsBack (x : Binary) (d : Digits) : Bool :=
  let low := if x.narrowBelow then 4 * x.mantissa - 1 else 4 * x.mantissa - 2
  let high := 4 * x.mantissa + 2
  let closed := x.mantissa % 2 == 0
  let fromLow := compareScaled d.digits d.exponent low (x.exponent - 2)
  let fromHigh := compareScaled d.digits d.exponent high (x.exponent - 2)
  (fromLow == .gt || (closed && fromLow == .eq)) && (fromHigh == .lt || (closed && fromHigh == .eq))

/-- The exact decimal of a number. -/
def Binary.exact (x : Binary) : Digits :=
  if 0 ≤ x.exponent then ⟨x.mantissa * twoTo x.exponent.toNat, 0⟩
  else ⟨x.mantissa * Nat.pow 5 (-x.exponent).toNat, x.exponent⟩

/-- The least `k` of a few candidates such that the number is below `10 ^ k`. -/
def Binary.scale (x : Binary) : Int :=
  let guess := ((x.mantissa.log2 : Int) + x.exponent) * 30103 / 100000 - 1
  let tooSmall (k : Int) : Bool := compareScaled 1 k x.mantissa x.exponent != .gt
  if tooSmall (guess + 2) then guess + 3
  else if tooSmall (guess + 1) then guess + 2
  else if tooSmall guess then guess + 1
  else guess

/-- The point of the grid `10 ^ step` that stands for the number, if one lies in its interval. -/
def Binary.onGrid? (x : Binary) (tie : Tie) (step : Int) : Option Digits :=
  let num := x.mantissa * twoTo x.exponent.toNat * tenTo (-step).toNat
  let den := twoTo (-x.exponent).toNat * tenTo step.toNat
  let below : Digits := ⟨num / den, step⟩
  let above : Digits := ⟨num / den + 1, step⟩
  match x.readsBack below, x.readsBack above with
  | false, false => none
  | true, false => some below
  | false, true => some above
  | true, true =>
    match compare (2 * (num % den)) den, tie with
    | .lt, _ => some below
    | .gt, _ => some above
    | .eq, .upward => some above
    | .eq, .toEven => some (if num / den % 2 = 0 then below else above)

/-- Drop the trailing zeros of the digits, at most `fuel` of them. -/
def stripZeros : Nat → Digits → Digits
  | 0, d => d
  | fuel + 1, d =>
    if d.digits ≠ 0 ∧ d.digits % 10 = 0 then stripZeros fuel ⟨d.digits / 10, d.exponent + 1⟩ else d

/-- The shortest decimal that identifies the number. -/
def Binary.shortest (x : Binary) (tie : Tie) : Digits :=
  if x.mantissa = 0 then ⟨0, 0⟩
  else
    let found := (List.range 17).findSome? fun n : Nat => x.onGrid? tie (x.scale - (n + 1))
    stripZeros 400 (found.getD x.exact)

/-- What a grid gives reads back to the number. -/
theorem readsBack_of_onGrid? {x : Binary} {tie : Tie} {step : Int} {d : Digits}
    (found : x.onGrid? tie step = some d) : x.readsBack d = true := by
  simp only [Binary.onGrid?] at found
  split at found
  · cases found
  · next below _ => cases found; exact below
  · next above => cases found; exact above
  · next below above =>
    split at found
    · cases found; exact below
    · cases found; exact above
    · cases found; exact above
    · split at found
      · cases found; exact below
      · cases found; exact above

end TemplateCatalog.Decimal
