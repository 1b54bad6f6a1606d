import TemplateCatalog.Decimal.Shortest

/-!
# Layout of decimals

How a floating point number is written once its digits are known. A `Layout` says which numbers
are written with an exponent and how a tie between two shortest decimals is resolved; the format
that prints numbers owns the record.
-/

namespace TemplateCatalog.Decimal

/-- How an exponent is written. -/
inductive ExponentStyle where
  /-- With its sign and at least two digits. -/
  | signed
  /-- With a minus sign only, and no leading zeros. -/
  | bare
  deriving DecidableEq

/-- The decisions of a format for floating point numbers. -/
structure Layout where
  /-- Numbers whose leading digit stands at this power of ten or above are written in place. -/
  positionalFrom : Option Int
  /-- Numbers whose leading digit stands at this power of ten or above get an exponent. -/
  exponentFrom : Option Int
  /-- What becomes of an exact tie. -/
  tie : Tie
  /-- How an exponent is written. -/
  exponentStyle : ExponentStyle

/-- As many zeros as wanted. -/
def zeros (n : Nat) : String :=
  String.ofList (List.replicate n '0')

/-- The digits with the point in its place, and at least one digit on either side of it. -/
def positional (d : Digits) : String :=
  let digits := toString d.digits
  let point : Int := digits.length + d.exponent
  if point ≤ 0 then "0." ++ zeros (-point).toNat ++ digits
  else if (digits.length : Int) ≤ point then digits ++ zeros (point - digits.length).toNat ++ ".0"
  else
    String.ofList (digits.toList.take point.toNat) ++ "." ++
      String.ofList (digits.toList.drop point.toNat)

/-- The text of an exponent. -/
def ExponentStyle.render (style : ExponentStyle) (exponent : Int) : String :=
  let size := toString exponent.natAbs
  match style with
  | .signed =>
    (if exponent < 0 then "-" else "+") ++ (if size.length < 2 then "0" ++ size else size)
  | .bare => (if exponent < 0 then "-" else "") ++ size

/-- The digits with the point after the first one, if there are more, and an exponent. -/
def scientific (style : ExponentStyle) (d : Digits) : String :=
  let digits := toString d.digits
  let fraction := String.ofList (digits.toList.drop 1)
  String.ofList (digits.toList.take 1) ++ (if fraction = "" then "" else "." ++ fraction) ++
    "e" ++ style.render (digits.length - 1 + d.exponent)

/-- The number is negative or a negative zero. -/
def isNegative (x : Float) : Bool :=
  x.toBits >>> 63 == 1

/-- The text of a finite floating point number. -/
def Layout.render (layout : Layout) (x : Float) : String :=
  let d := (Binary.ofBits x.toBits).shortest layout.tie
  let leading : Int := (toString d.digits).length - 1 + d.exponent
  let small := d.digits ≠ 0 ∧ layout.positionalFrom.any (leading < ·)
  let large := d.digits ≠ 0 ∧ layout.exponentFrom.any (· ≤ leading)
  (if isNegative x then "-" else "") ++ if small ∨ large then scientific layout.exponentStyle d
    else positional d

end TemplateCatalog.Decimal
