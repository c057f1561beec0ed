/-!
Double precision numbers as their 64 bits. A literal keeps the bits it was read with, payloads of
NaN included; comparison is that of IEEE 754.
-/
namespace QueryTree

/-- A number times a power of a base; a negative power leaves it as it is. -/
def timesPower (base n : Nat) (power : Int) : Nat :=
  n * Nat.pow base power.toNat

/-- A double precision number, given by its IEEE 754 representation. -/
structure Double where
  bits : UInt64
  deriving DecidableEq, Inhabited

namespace Double

/-- The number of fractions, which have 52 bits. -/
def fractions : Nat :=
  0x10000000000000

/-- The bit above those of exponent and fraction. -/
def signBit : Nat :=
  0x8000000000000000

/-- The 11 exponent bits. -/
def exponentField (d : Double) : Nat :=
  d.bits.toNat / fractions % 2048

/-- The 52 fraction bits. -/
def fractionField (d : Double) : Nat :=
  d.bits.toNat % fractions

/-- Whether the sign bit is set. -/
def isNegative (d : Double) : Bool :=
  signBit ≤ d.bits.toNat

/-- Neither infinite nor a NaN. -/
def isFinite (d : Double) : Bool :=
  d.exponentField < 2047

/-- Whether the bits stand for no number at all. -/
def isNaN (d : Double) : Bool :=
  d.exponentField == 2047 && d.fractionField != 0

/-- Zero of either sign. -/
def isZero (d : Double) : Bool :=
  d.bits.toNat % signBit == 0

/-- Equality of numbers: a NaN differs from everything, and the two zeros are equal. -/
def same (a b : Double) : Bool :=
  !a.isNaN && !b.isNaN && (a.bits == b.bits || (a.isZero && b.isZero))

/-- The number of a sign bit and the 63 bits below it. -/
def ofFields (negative : Bool) (magnitude : Nat) : Double :=
  ⟨((if negative then signBit else 0) + magnitude).toUInt64⟩

/-- The significand and the power of two whose product is the absolute value of a finite number. -/
def scaled (d : Double) : Nat × Int :=
  if d.exponentField = 0 then (d.fractionField, -1074)
  else (fractions + d.fractionField, (d.exponentField : Int) - 1075)

/-- Division with rounding to the nearest natural number, a tie going to the even one. -/
def divNearestEven (num den : Nat) : Nat :=
  let q := num / den
  let r := num % den
  if 2 * r < den then q
  else if 2 * r > den then q + 1
  else if q % 2 = 0 then q
  else q + 1

/-- The exponent of the power of two that is at most `num / den` while its double is greater. -/
def log2Ratio (num den : Nat) : Int :=
  let guess : Int := (num.log2 : Int) - den.log2
  if timesPower 2 num (-guess) ≥ timesPower 2 den guess then guess else guess - 1

/-- The 63 bits of the double nearest to `num / den`, ties going to the even one. The fields of
exponent and fraction overlap by the leading bit of the significand, so that a significand rounded
up to the next power of two carries into the exponent; from the largest power on the result is
infinite. -/
def magnitudeOfRatio (num den : Nat) : Nat :=
  if num = 0 then 0
  else
    let q := max (-1074) (log2Ratio num den - 52)
    let significand := divNearestEven (timesPower 2 num (-q)) (timesPower 2 den q)
    min ((q + 1074).toNat * fractions + significand) (2047 * fractions)

end Double
end QueryTree
