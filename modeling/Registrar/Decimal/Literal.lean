import Registrar.Decimal.Double

/-! Numbers as they are written. -/
namespace Registrar.Decimal

def isDigit (char : Char) : Bool :=
  '0' ≤ char && char ≤ '9'

def natOfDigits (digits : List Char) : Nat :=
  digits.foldl (fun value digit => value * 10 + (digit.toNat - '0'.toNat)) 0

/-- Whether a minus sign comes first, and the text after the sign, if there is one. -/
def splitSign : List Char → Bool × List Char
  | '-' :: text => (true, text)
  | '+' :: text => (false, text)
  | text => (false, text)

def nat? (text : List Char) : Option Nat :=
  if text.isEmpty || text.any (!isDigit ·) then none else some (natOfDigits text)

def int? (text : List Char) : Option Int :=
  let (negative, digits) := splitSign text
  (nat? digits).map fun value => if negative then -(value : Int) else value

def exponent? : List Char → Option Int
  | [] => some 0
  | char :: text => if char = 'e' ∨ char = 'E' then int? text else none

/-- The double nearest to a decimal: a sign or none, digits with at most one point among, before
or after them, and an exponent or none. -/
def double? (text : List Char) : Option Double := do
  let (negative, text) := splitSign text
  let whole := text.takeWhile isDigit
  let text := text.dropWhile isDigit
  let (places, text) := match text with
    | '.' :: rest => (rest.takeWhile isDigit, rest.dropWhile isDigit)
    | _ => ([], text)
  if whole.isEmpty && places.isEmpty then failure
  let exponent ← exponent? text
  return Double.ofDecimal negative (natOfDigits (whole ++ places)) (exponent - places.length)

end Registrar.Decimal
