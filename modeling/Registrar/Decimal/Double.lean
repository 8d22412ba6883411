/-! Binary floating point numbers of 64 bits, as sign, whole significand and power of two. -/
namespace Registrar.Decimal

inductive Double where
  | finite (negative : Bool) (significand : Nat) (exponent : Int)
  | infinite (negative : Bool)
  | notANumber
  deriving DecidableEq, Repr

namespace Double

def leastExponent : Int := -1074

def greatestExponent : Int := 971

/-- The least significand of a number that has all its bits. -/
def leastNormal : Nat := 0x10000000000000

def zero (negative : Bool) : Double := .finite negative 0 leastExponent

/-- Reads the interchange format: a sign bit, eleven bits of exponent, 52 bits of significand. -/
def ofBits (bits : UInt64) : Double :=
  let negative := bits.toNat >>> 63 == 1
  let biased : Nat := (bits.toNat >>> 52) % 0x800
  let fraction : Nat := bits.toNat % leastNormal
  if biased = 0x7FF then (if fraction = 0 then .infinite negative else .notANumber)
  else if biased = 0 then .finite negative fraction leastExponent
  else .finite negative (leastNormal + fraction) ((biased : Int) - 1075)

end Double

/-- The whole number nearest to `numerator / denominator`; of two equally near, the even one. -/
def roundDiv (numerator denominator : Nat) : Nat :=
  let quotient := numerator / denominator
  let twice := 2 * (numerator % denominator)
  if twice < denominator ∨ (twice = denominator ∧ quotient % 2 = 0) then quotient else quotient + 1

def shifted (numerator denominator : Nat) (shift : Int) : Nat × Nat :=
  (numerator <<< shift.toNat, denominator <<< (-shift).toNat)

namespace Double

/-- The double nearest to `± numerator / denominator`; of two equally near, the one with the even
significand. Numbers beyond the greatest double become infinite. -/
def ofRatio (negative : Bool) (numerator denominator : Nat) : Double :=
  if numerator = 0 then zero negative
  else
    let estimate := (numerator.log2 : Int) - denominator.log2 - 52
    let (num, den) := shifted numerator denominator (-estimate)
    let exact := if num < leastNormal * den then estimate - 1 else estimate
    let exponent := max exact leastExponent
    let (num, den) := shifted numerator denominator (-exponent)
    let significand := roundDiv num den
    let (significand, exponent) :=
      if significand = 2 * leastNormal then (leastNormal, exponent + 1)
      else (significand, exponent)
    if exponent > greatestExponent then .infinite negative
    else .finite negative significand exponent

/-- The double nearest to `± digits · 10 ^ exponent`. A decimal whose leading digit lies far
outside the range of doubles is infinite or zero at once. -/
def ofDecimal (negative : Bool) (digits : Nat) (exponent : Int) : Double :=
  if digits = 0 then zero negative
  else
    let leading := (Nat.toDigits 10 digits).length + exponent
    if leading > 400 then .infinite negative
    else if leading < -400 then zero negative
    else ofRatio negative (digits * Nat.pow 10 exponent.toNat) (Nat.pow 10 (-exponent).toNat)

end Double

end Registrar.Decimal
