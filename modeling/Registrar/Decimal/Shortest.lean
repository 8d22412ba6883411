import Registrar.Decimal.Double

/-! The shortest decimal that reads back as a given double, and its text without an exponent. -/
namespace Registrar.Decimal

structure Numeral where
  digits : Nat
  exponent : Int
  deriving DecidableEq, Repr

/-- The reals that round to a positive double, as multiples of a quarter unit of its last place.
The lower neighbour of a power of two is nearer. -/
structure Interval where
  low : Nat
  high : Nat
  /-- Whether both ends round to the double. -/
  closed : Bool

def interval (significand : Nat) (exponent : Int) : Interval where
  low := 4 * significand -
    (if significand = Double.leastNormal ∧ exponent > Double.leastExponent then 1 else 2)
  high := 4 * significand + 2
  closed := significand % 2 = 0

def ratio (number : Nat) (two ten : Int) : Nat × Nat :=
  ((number <<< two.toNat) * Nat.pow 10 (-ten).toNat, (1 <<< (-two).toNat) * Nat.pow 10 ten.toNat)

/-- Whether `digits · 10 ^ ten` lies in the interval around `significand · 2 ^ exponent`. -/
def rounds (significand : Nat) (exponent : Int) (digits : Nat) (ten : Int) : Bool :=
  let around := interval significand exponent
  let (low, lowUnit) := ratio around.low (exponent - 2) ten
  let (high, highUnit) := ratio around.high (exponent - 2) ten
  if around.closed then low ≤ digits * lowUnit && digits * highUnit ≤ high
  else low < digits * lowUnit && digits * highUnit < high

/-- The multiple of `10 ^ ten` that rounds to the double, the nearer one if both neighbours do.
The greater one is taken where they are equally near. -/
def onGrid? (significand : Nat) (exponent ten : Int) : Option Numeral :=
  let (number, unit) := ratio significand exponent ten
  let below := number / unit
  let lowerFits := rounds significand exponent below ten
  let upperFits := rounds significand exponent (below + 1) ten
  if lowerFits && (!upperFits || 2 * (number % unit) < unit) then some ⟨below, ten⟩
  else if upperFits then some ⟨below + 1, ten⟩
  else none

def search (significand : Nat) (exponent : Int) : Nat → Int → Option Numeral
  | 0, _ => none
  | more + 1, ten =>
    match onGrid? significand exponent ten with
    | some decimal => some decimal
    | none => search significand exponent more (ten - 1)

/-- The decimal with the fewest digits that reads back as `significand · 2 ^ exponent`. The search
starts at a power of ten above the number; seventeen digits always suffice. -/
def shortest (significand : Nat) (exponent : Int) : Numeral :=
  let (whole, _) := ratio significand exponent 0
  let above : Int :=
    if 0 ≤ exponent then (Nat.toDigits 10 whole).length
    else (Nat.toDigits 10 significand).length - (-exponent).toNat * 30102 / 100000
  (search significand exponent 24 above).getD ⟨significand, 0⟩

/-- A decimal in positional notation: whole numbers have no point, smaller ones a zero before
it. -/
def Numeral.text (decimal : Numeral) : String :=
  let digits := Nat.toDigits 10 decimal.digits
  if 0 ≤ decimal.exponent then
    String.ofList (digits ++ List.replicate decimal.exponent.toNat '0')
  else
    let places := (-decimal.exponent).toNat
    let padded := List.replicate (places + 1 - digits.length) '0' ++ digits
    String.ofList (padded.take (padded.length - places) ++ '.' :: padded.drop (padded.length - places))

/-- The text of a double: the shortest decimal that reads back, never with an exponent. -/
def Double.text : Double → String
  | .finite negative significand exponent =>
    let magnitude := if significand = 0 then "0" else (shortest significand exponent).text
    if negative then "-" ++ magnitude else magnitude
  | .infinite negative => if negative then "-inf" else "inf"
  | .notANumber => "NaN"

end Registrar.Decimal
