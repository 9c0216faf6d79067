import ServiceBinding.Data.Width
import ServiceBinding.Json.Value

/-!
# Numerals of JSON text

A numeral without point and exponent whose value fits 64 bits is an integer, with the exception of
`-0`. Every other one is a double: its digits as far as they fit 64 bits, scaled by one power of
ten. A numeral beyond the largest double stands for no number.
-/

namespace ServiceBinding.Json

/-- The parts of a numeral, by their decimal digits. -/
structure Numeral where
  negative : Bool
  whole : List Nat
  fraction : Option (List Nat)
  exponent : Option (Bool × List Nat)

namespace Numeral

/-- Appends digits to `acc` as long as the result stays below `2 ^ 64`; also the digits that are
left over. -/
def gather (acc : Nat) : List Nat → Nat × List Nat
  | [] => (acc, [])
  | d :: rest => if acc * 10 + d < Width.bound64 then gather (acc * 10 + d) rest else (acc, d :: rest)

private def powerOfTen (k : Nat) : Float := Float.ofScientific 1 false k

/-- `f * 10 ^ e`, by one multiplication or division with a power of ten where doubles have it. -/
def scale (fuel : Nat) (f : Float) (e : Int) : Option Float :=
  match fuel with
  | 0 => none
  | fuel + 1 =>
    if e.natAbs ≤ 308 then
      if 0 ≤ e then
        let r := f * powerOfTen e.natAbs
        if r.isInf then none else some r
      else some (f / powerOfTen e.natAbs)
    else if f == 0.0 then some f
    else if 0 ≤ e then none
    else scale fuel (f / powerOfTen 308) (e + 308)

private def signed (negative : Bool) (f : Float) : Number :=
  .double (.ofFloat (if negative then -f else f))

/-- The double `± significand * 10 ^ e`. -/
def scaled? (negative : Bool) (significand : Nat) (e : Int) : Option Number :=
  (scale 4 significand.toUInt64.toFloat e).map (signed negative)

private def digitsValue (digits : List Nat) : Nat := digits.foldl (fun acc d => acc * 10 + d) 0

/-- The number a numeral stands for. -/
def number? (n : Numeral) : Option Number :=
  let (whole, excess) := gather 0 n.whole
  match n.fraction, n.exponent with
  | none, none =>
    if excess.isEmpty then
      if !n.negative then some (.whole whole)
      else if whole = 0 then some (signed true 0.0)
      else if whole ≤ Width.bound63 then some (.negative whole)
      else some (signed true whole.toUInt64.toFloat)
    else scaled? n.negative whole excess.length
  | fraction, exponent =>
    let digits := fraction.getD []
    let (significand, unread) := gather whole digits
    let start : Int := excess.length - (digits.length - unread.length : Nat)
    match exponent with
    | none => scaled? n.negative significand start
    | some (negativeExponent, e) =>
      let e := digitsValue e
      if 2147483648 ≤ e then
        if significand ≠ 0 && !negativeExponent then none
        else some (signed n.negative 0.0)
      else scaled? n.negative significand (if negativeExponent then start - e else start + e)

end Numeral

end ServiceBinding.Json
