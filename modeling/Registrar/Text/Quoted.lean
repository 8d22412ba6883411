import Registrar.Text.Blank
import Registrar.Text.Printable

/-! Quoted text for messages: in double quotes, with an escape for each character that would not
show. -/
namespace Registrar.Text

def isPrintable (char : Char) : Bool :=
  let code := char.toNat
  if code < 0x7F then 0x20 ≤ code else !inRanges unprintableRanges code

def hexadecimal (code : Nat) : String :=
  String.ofList (Nat.toDigits 16 code)

def quoteChar (char : Char) : String :=
  if char = '\x00' then "\\0"
  else if char = '\t' then "\\t"
  else if char = '\r' then "\\r"
  else if char = '\n' then "\\n"
  else if char = '\x22' then "\\\""
  else if char = '\\' then "\\\\"
  else if isPrintable char then char.toString
  else "\\u\x7b" ++ hexadecimal char.toNat ++ "\x7d"

def quote (text : String) : String :=
  "\"" ++ String.join (text.toList.map quoteChar) ++ "\""

end Registrar.Text
