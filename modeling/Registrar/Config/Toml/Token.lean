import Registrar.Decimal.Literal
import Registrar.Text.Escape

/-! The tokens of TOML: blanks, comments, keys, strings, and the forms of bare values. A reader
gives what it has read and the text after it, or nothing where the text does not fit. -/
namespace Registrar.Config.Toml

/-! ### Blanks and comments -/

def isSpace (char : Char) : Bool :=
  char == ' ' || char == '\t'

def skipSpace (text : List Char) : List Char :=
  text.dropWhile isSpace

def unifyLines : List Char → Option (List Char)
  | [] => some []
  | ['\r'] => none
  | char :: next :: text =>
    if char = '\r' then (if next = '\n' then unifyLines (next :: text) else none)
    else (unifyLines (next :: text)).map (char :: ·)
  | [char] => some [char]

/-- A comment without its line end; control characters other than tabs are not allowed in it. -/
def skipComment : List Char → Option (List Char)
  | '#' :: text =>
    if (text.takeWhile (· != '\n')).all (Text.isQuotable false) then some (text.dropWhile (· != '\n'))
    else none
  | text => some text

/-- The end of a line after an expression: blanks, a comment or none, and a line feed unless the
text ends. -/
def endLine (text : List Char) : Option (List Char) := do
  match ← skipComment (skipSpace text) with
  | [] => some []
  | '\n' :: rest => some rest
  | _ => none

/-- Skips blanks, comments and line ends. Each comment takes one unit of `fuel`. -/
def skipLines : (fuel : Nat) → List Char → Option (List Char)
  | 0, _ => none
  | fuel + 1, text =>
    match text.dropWhile fun char => isSpace char || char == '\n' with
    | '#' :: rest => (skipComment ('#' :: rest)).bind (skipLines fuel)
    | rest => some rest

/-- Skips blanks, comments and line ends; a text holds no more comments than characters. -/
def skipBetween (text : List Char) : Option (List Char) :=
  skipLines (text.length + 1) text

/-! ### Strings and keys -/

/-- A string on one line: in double quotes with escapes, or in single quotes as it stands. -/
def lineString : List Char → Option (String × List Char)
  | '\x22' :: text => do
    let (body, rest) ← Text.quotedBody '\x22' text
    return (String.ofList (← Text.unescape false body), rest)
  | '\x27' :: text =>
    let body := text.takeWhile (· != '\x27')
    match text.dropWhile (· != '\x27') with
    | _ :: rest => if body.all (Text.isQuotable false) then some (String.ofList body, rest) else none
    | [] => none
  | _ => none

/-- The body of a string of several lines; a line end right after the opening quotes is no part
of it. -/
def multilineString (quote : Char) (escapes : Bool) (text : List Char) : Option (String × List Char) := do
  let text := match text with
    | '\n' :: text => text
    | _ => text
  let (body, rest) ← Text.multilineBody quote escapes 0 text
  if escapes then return (String.ofList (← Text.unescape true body), rest)
  else if body.all (Text.isQuotable true) then return (String.ofList body, rest)
  else none

def string : List Char → Option (String × List Char)
  | '\x22' :: '\x22' :: '\x22' :: text => multilineString '\x22' true text
  | '\x27' :: '\x27' :: '\x27' :: text => multilineString '\x27' false text
  | text => lineString text

def isBare (char : Char) : Bool :=
  char.isAlphanum || char == '_' || char == '-'

def keyPart (text : List Char) : Option (String × List Char) :=
  match text with
  | '\x22' :: _ | '\x27' :: _ => lineString text
  | _ =>
    let name := text.takeWhile isBare
    if name.isEmpty then none else some (String.ofList name, text.dropWhile isBare)

def deepest : Nat := 80

def keyParts : (parts : Nat) → List Char → Option (List String × List Char)
  | 0, _ => none
  | parts + 1, text => do
    let (first, rest) ← keyPart (skipSpace text)
    match skipSpace rest with
    | '.' :: rest => do
      let (others, rest) ← keyParts parts rest
      return (first :: others, rest)
    | rest => return ([first], rest)

def key (text : List Char) : Option (List String × List Char) :=
  keyParts (deepest - 1) text

/-! ### Bare values -/

def isBareValue (char : Char) : Bool :=
  !(isSpace char || char == '\n' || char == ',' || char == ']' || char == '\x7d' || char == '#')

def grouped? (isDigit : Char → Bool) : List Char → Option (List Char)
  | [] => none
  | [char] => if isDigit char then some [char] else none
  | char :: '_' :: text =>
    if isDigit char then (grouped? isDigit text).map (char :: ·) else none
  | char :: text => if isDigit char then (grouped? isDigit text).map (char :: ·) else none

def plainDigits? (text : List Char) : Option (List Char) :=
  match grouped? Decimal.isDigit text with
  | some ('0' :: _ :: _) => none
  | digits? => digits?

def natOfBase? (base : Nat) (text : List Char) : Option Nat := do
  let isDigit (char : Char) : Bool := (Text.hexDigit? char).any (· < base)
  let digits ← grouped? isDigit text
  return digits.foldl (fun value digit => value * base + (Text.hexDigit? digit).getD 0) 0

def fits (value : Int) : Option Int :=
  if -0x8000000000000000 ≤ value ∧ value < 0x8000000000000000 then some value else none

/-- A whole number, in decimal with or without a sign, or in another base after `0x`, `0o` or
`0b`. -/
def integer? : List Char → Option Int
  | '0' :: 'x' :: text => (natOfBase? 16 text).bind fun value => fits value
  | '0' :: 'o' :: text => (natOfBase? 8 text).bind fun value => fits value
  | '0' :: 'b' :: text => (natOfBase? 2 text).bind fun value => fits value
  | text => do
    let (negative, digits) := Decimal.splitSign text
    let value := Decimal.natOfDigits (← plainDigits? digits)
    fits (if negative then -(value : Int) else value)

def exponentDigits? (text : List Char) : Option Int := do
  let (negative, digits) := Decimal.splitSign text
  let value := Decimal.natOfDigits (← grouped? Decimal.isDigit digits)
  return if negative then -(value : Int) else value

/-- A float: digits with places or an exponent or both. One too large for a double is no float,
unless it is negative. -/
def float? (text : List Char) : Option Decimal.Double := do
  let (negative, unsigned) := Decimal.splitSign text
  match unsigned with
  | ['i', 'n', 'f'] => return .infinite negative
  | ['n', 'a', 'n'] => return .notANumber
  | _ =>
    let isMark (char : Char) : Bool := char == 'e' || char == 'E'
    let mantissa := unsigned.takeWhile (!isMark ·)
    let exponent? := match unsigned.dropWhile (!isMark ·) with
      | [] => some 0
      | _ :: digits => exponentDigits? digits
    let whole ← plainDigits? (mantissa.takeWhile (· != '.'))
    let places ← match mantissa.dropWhile (· != '.') with
      | [] => if unsigned.any isMark then some [] else none
      | _ :: digits => grouped? Decimal.isDigit digits
    let value := Decimal.Double.ofDecimal negative (Decimal.natOfDigits (whole ++ places))
      ((← exponent?) - places.length)
    if value = .infinite false then none else some value

/-- A number of two digits that is at most `greatest` and at least `least`. -/
def twoDigits? (least greatest : Nat) (tens ones : Char) : Option Nat := do
  let value ← Decimal.nat? [tens, ones]
  if least ≤ value ∧ value ≤ greatest then some value else none

def daysIn (year month : Nat) : Nat :=
  let leap := year % 4 = 0 && (year % 100 != 0 || year % 400 = 0)
  if month = 2 then (if leap then 29 else 28)
  else if month = 4 ∨ month = 6 ∨ month = 9 ∨ month = 11 then 30
  else 31

def date? : List Char → Option (List Char)
  | y1 :: y2 :: y3 :: y4 :: '-' :: m1 :: m2 :: '-' :: d1 :: d2 :: rest => do
    let year ← Decimal.nat? [y1, y2, y3, y4]
    let month ← twoDigits? 1 12 m1 m2
    let _ ← twoDigits? 1 (daysIn year month) d1 d2
    return rest
  | _ => none

def time? : List Char → Option (List Char)
  | h1 :: h2 :: ':' :: m1 :: m2 :: ':' :: s1 :: s2 :: rest => do
    let _ ← twoDigits? 0 23 h1 h2
    let _ ← twoDigits? 0 59 m1 m2
    let _ ← twoDigits? 0 60 s1 s2
    match rest with
    | '.' :: places =>
      if (places.takeWhile Decimal.isDigit).isEmpty then none
      else return places.dropWhile Decimal.isDigit
    | _ => return rest
  | _ => none

def isOffset : List Char → Bool
  | [] | ['Z'] | ['z'] => true
  | [sign, h1, h2, ':', m1, m2] =>
    (sign == '+' || sign == '-') && (twoDigits? 0 23 h1 h2).isSome && (twoDigits? 0 59 m1 m2).isSome
  | _ => false

def isTime (text : List Char) : Bool :=
  (time? text).any isOffset

/-- Whether a text is a date, a time, or both with a `T` between. Only both take an offset. -/
def isDateTime (text : List Char) : Bool :=
  time? text == some [] ||
    match date? text with
    | some [] => true
    | some (char :: rest) => (char == 'T' || char == 't') && isTime rest
    | none => false

end Registrar.Config.Toml
