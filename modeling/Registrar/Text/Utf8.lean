/-! UTF-8. Decoding never fails: each longest part of an ill-formed sequence becomes one
replacement character, and the byte that broke the sequence is read anew. -/
namespace Registrar.Utf8

/-- The bytes of one character, by the number of bits its code point needs. -/
def encodeChar (char : Char) : List UInt8 :=
  let code := char.toNat
  if code < 0x80 then
    [.ofNat code]
  else if code < 0x800 then
    [.ofNat (0xC0 + code / 0x40), .ofNat (0x80 + code % 0x40)]
  else if code < 0x10000 then
    [.ofNat (0xE0 + code / 0x1000), .ofNat (0x80 + code / 0x40 % 0x40), .ofNat (0x80 + code % 0x40)]
  else
    [.ofNat (0xF0 + code / 0x40000), .ofNat (0x80 + code / 0x1000 % 0x40),
      .ofNat (0x80 + code / 0x40 % 0x40), .ofNat (0x80 + code % 0x40)]

def encode (text : List Char) : List UInt8 :=
  text.flatMap encodeChar

def replacement : Char := '\uFFFD'

inductive State where
  | start
  /-- Inside a character: `more + 1` bytes are missing, the next one lies between `low` and
  `high`, and `code` holds the bits read so far. -/
  | inside (more low high code : Nat)
  deriving DecidableEq, Repr

/-- Reads the first byte of a character. The bounds on the second byte rule out overlong forms,
surrogates and code points that are too large. -/
def lead (byte : Nat) : List Char × State :=
  if byte < 0x80 then ([Char.ofNat byte], .start)
  else if byte < 0xC2 then ([replacement], .start)
  else if byte < 0xE0 then ([], .inside 0 0x80 0xBF (byte - 0xC0))
  else if byte < 0xF0 then
    ([], .inside 1 (if byte = 0xE0 then 0xA0 else 0x80) (if byte = 0xED then 0x9F else 0xBF)
      (byte - 0xE0))
  else if byte < 0xF5 then
    ([], .inside 2 (if byte = 0xF0 then 0x90 else 0x80) (if byte = 0xF4 then 0x8F else 0xBF)
      (byte - 0xF0))
  else ([replacement], .start)

def step : State → UInt8 → List Char × State
  | .start, byte => lead byte.toNat
  | .inside more low high code, byte =>
    if low ≤ byte.toNat ∧ byte.toNat ≤ high then
      let code := code * 0x40 + (byte.toNat - 0x80)
      match more with
      | 0 => ([Char.ofNat code], .start)
      | more + 1 => ([], .inside more 0x80 0xBF code)
    else
      let (chars, state) := lead byte.toNat
      (replacement :: chars, state)

def finish : State → List Char
  | .start => []
  | .inside .. => [replacement]

def decodeFrom (state : State) : List UInt8 → List Char
  | [] => finish state
  | byte :: bytes =>
    let (chars, next) := step state byte
    chars ++ decodeFrom next bytes

def decode (bytes : List UInt8) : List Char :=
  decodeFrom .start bytes

def decode? (bytes : List UInt8) : Option (List Char) :=
  if encode (decode bytes) = bytes then some (decode bytes) else none

def bytes (text : String) : List UInt8 :=
  encode text.toList

def string? (bytes : List UInt8) : Option String :=
  (decode? bytes).map String.ofList

theorem encode_append (left right : List Char) : encode (left ++ right) = encode left ++ encode right := by
  simp [encode]

theorem encode_of_decode? {bytes : List UInt8} {text : List Char} (decoded : decode? bytes = some text) :
    encode text = bytes := by
  unfold decode? at decoded
  split at decoded
  · cases decoded; assumption
  · cases decoded

end Registrar.Utf8
