import ServiceBinding.Data.Width

/-!
# Doubles written in decimal

A double is kept by its 64 bits, so that equal numbers are equal values. A finite one is
`± significand * 2 ^ exponent`; its exact decimal expansion and its rounding to a fixed number of
places are computed in whole numbers from that.
-/

namespace ServiceBinding

/-- An IEEE binary64 number. -/
structure Double where
  bits : UInt64
  deriving DecidableEq, Inhabited

namespace Double

def ofFloat (f : Float) : Double := ⟨f.toBits⟩

def toFloat (d : Double) : Float := Float.ofBits d.bits

def isNegative (d : Double) : Bool := d.bits.toNat / Width.bound63 = 1

/-- The first bit of the significand of a normal number, which is not stored: `2 ^ 52`. -/
private def hiddenBit : Nat := 4503599627370496

private def exponentField (d : Double) : Nat := d.bits.toNat / hiddenBit % 2048

private def fractionField (d : Double) : Nat := d.bits.toNat % hiddenBit

def isNaN (d : Double) : Bool := d.exponentField = 2047 && d.fractionField ≠ 0

def isInfinite (d : Double) : Bool := d.exponentField = 2047 && d.fractionField = 0

/-- The magnitude of a finite double as a fraction of whole numbers. -/
def magnitude (d : Double) : Nat × Nat :=
  let e := d.exponentField
  let m := if e = 0 then d.fractionField else d.fractionField + hiddenBit
  let shift := max e 1
  if 1075 ≤ shift then (m * Nat.pow 2 (shift - 1075), 1) else (m, Nat.pow 2 (1075 - shift))

/-- `num / den` rounded to a whole number, a half to the even neighbour. -/
def roundHalfEven (num den : Nat) : Nat :=
  let q := num / den
  let r := num % den
  if 2 * r < den then q
  else if den < 2 * r then q + 1
  else if q % 2 = 0 then q else q + 1

/-- `n` as a decimal with its last `places` digits behind the point. -/
private def withPoint (places n : Nat) : String :=
  let digits := (toString n).toList
  let padded := List.replicate (places + 1 - digits.length) '0' ++ digits
  let cut := padded.length - places
  String.ofList (padded.take cut ++ '.' :: padded.drop cut)

/-- The double with `places` digits behind the point (at least one), a half going to the even
digit. -/
def fixed (places : Nat) (d : Double) : String :=
  if d.isNaN then "NaN"
  else
    let sign := if d.isNegative then "-" else ""
    if d.isInfinite then sign ++ "inf"
    else
      let (num, den) := d.magnitude
      sign ++ withPoint places (roundHalfEven (num * Nat.pow 10 places) den)

/-- The exact decimal expansion of a finite double, with at least one digit behind the point. -/
def expansion (d : Double) : String :=
  let (num, den) := d.magnitude
  let places := Nat.log2 den
  let scaled := num * Nat.pow 5 places
  let sign := if d.isNegative then "-" else ""
  let digits := (withPoint (max places 1) (if places = 0 then scaled * 10 else scaled)).toList
  let trimmed := (digits.reverse.dropWhile (· == '0')).reverse
  sign ++ String.ofList (if trimmed.getLast? = some '.' then trimmed ++ ['0'] else trimmed)

end Double

end ServiceBinding
