/-! Escapes in quoted strings: a backslash and a letter for a control character, or `u` and `U`
with four and eight hexadecimal digits for any character. -/
namespace Registrar.Text

def escaped? : Char → Option Char
  | 'b' => some '\x08'
  | 't' => some '\t'
  | 'n' => some '\n'
  | 'f' => some '\x0C'
  | 'r' => some '\r'
  | '\x22' => some '\x22'
  | '\\' => some '\\'
  | _ => none

def hexDigit? (char : Char) : Option Nat :=
  let code := char.toNat
  if 0x30 ≤ code ∧ code ≤ 0x39 then some (code - 0x30)
  else if 0x41 ≤ code ∧ code ≤ 0x46 then some (code - 0x37)
  else if 0x61 ≤ code ∧ code ≤ 0x66 then some (code - 0x57)
  else none

/-- The character of a code point; surrogates and what lies above the last one have none. -/
def char? (code : Nat) : Option Char :=
  if code.isValidChar then some (Char.ofNat code) else none

inductive EscapeState where
  | plain
  | escape
  | digits (more code : Nat)
  | lineEnd
  | resuming
  deriving DecidableEq, Repr

/-- Whether a character may stand for itself: no control character may, except a tab, and a line
feed where the string has several lines. -/
def isQuotable (multiline : Bool) (char : Char) : Bool :=
  char == '\t' || (multiline && char == '\n') || (0x20 ≤ char.toNat && char.toNat != 0x7F)

def plainStep (multiline : Bool) (char : Char) : Option (List Char × EscapeState) :=
  if char = '\\' then some ([], .escape)
  else if isQuotable multiline char then some ([char], .plain)
  else none

/-- The characters that one more character gives, and the state after it. In a string of several
lines, a backslash at the end of a line takes away the blanks and line ends that follow. -/
def escapeStep (multiline : Bool) : EscapeState → Char → Option (List Char × EscapeState)
  | .plain, char => plainStep multiline char
  | .escape, char =>
    if char = 'u' then some ([], .digits 3 0)
    else if char = 'U' then some ([], .digits 7 0)
    else if multiline && (char == ' ' || char == '\t') then some ([], .lineEnd)
    else if multiline && char == '\n' then some ([], .resuming)
    else (escaped? char).map fun meant => ([meant], .plain)
  | .digits more code, char =>
    (hexDigit? char).bind fun digit =>
      match more with
      | 0 => (char? (code * 16 + digit)).map fun meant => ([meant], .plain)
      | more + 1 => some ([], .digits more (code * 16 + digit))
  | .lineEnd, char =>
    if char = ' ' ∨ char = '\t' then some ([], .lineEnd)
    else if char = '\n' then some ([], .resuming)
    else none
  | .resuming, char =>
    if char = ' ' ∨ char = '\t' ∨ char = '\n' then some ([], .resuming)
    else plainStep multiline char

def unescapeFrom (multiline : Bool) : EscapeState → List Char → Option (List Char)
  | .plain, [] | .resuming, [] => some []
  | _, [] => none
  | state, char :: text => do
    let (chars, next) ← escapeStep multiline state char
    return chars ++ (← unescapeFrom multiline next text)

/-- Replaces the escapes in the body of a quoted string. There is no result where an escape is
malformed or a control character stands for itself. -/
def unescape (multiline : Bool) (body : List Char) : Option (List Char) :=
  unescapeFrom multiline .plain body

/-- The body of a quoted string up to the quote that closes it, and what follows that quote. A
quote after a backslash closes nothing. -/
def quotedBody (quote : Char) : List Char → Option (List Char × List Char)
  | [] => none
  | [char] => if char = quote then some ([], []) else none
  | char :: next :: text =>
    if char = quote then some ([], next :: text)
    else if char = '\\' then (quotedBody quote text).map fun (body, rest) => (char :: next :: body, rest)
    else (quotedBody quote (next :: text)).map fun (body, rest) => (char :: body, rest)

/-- The body of a string between three quotes, and what follows them; `run` quotes stand right
before the text. Up to two more quotes before the closing ones belong to the body, as does a quote
after a backslash where there are escapes. -/
def multilineBody (quote : Char) (escapes : Bool) : (run : Nat) → List Char →
    Option (List Char × List Char)
  | run, [] => if run ≥ 3 then some (List.replicate (run - 3) quote, []) else none
  | run, char :: text =>
    if char = quote ∧ run < 5 then multilineBody quote escapes (run + 1) text
    else if run ≥ 3 then some (List.replicate (run - 3) quote, char :: text)
    else
      let before := List.replicate run quote
      if escapes ∧ char = '\\' then
        match text with
        | [] => none
        | next :: text => (multilineBody quote escapes 0 text).map fun (body, rest) =>
          (before ++ char :: next :: body, rest)
      else (multilineBody quote escapes 0 text).map fun (body, rest) => (before ++ char :: body, rest)

end Registrar.Text
