import Registrar.Config.Error
import Registrar.Config.Value
import Registrar.Decimal.Literal
import Registrar.Text.Blank
import Registrar.Text.Escape

/-! Settings in environment variables. The name of a variable gives nested keys; its value is read
by a small grammar of scalars, lists and tables, and is plain text where the grammar does not fit
as a whole. -/
namespace Registrar.Config.Environment

/-! ### Names -/

def pointed : List Char → List Char
  | '_' :: '_' :: text => '.' :: pointed text
  | char :: text => char :: pointed text
  | [] => []

def parts : List Char → List (List Char)
  | [] => [[]]
  | char :: text =>
    if char = '.' then [] :: parts text
    else match parts text with
      | [] => [[char]]
      | part :: rest => (char :: part) :: rest

/-- The rest of a name that starts as the variables for settings do, in either case. -/
def rest? (name : List Char) : Option (List Char) :=
  let start := variableStart.toList
  if name.take start.length |>.map Char.toUpper |> (· == start) then some (name.drop start.length)
  else none

def keys? (name : String) : Option (List String) := do
  let rest ← rest? (Text.trim name.toList)
  let keys := parts (Text.trim (pointed rest))
  if keys.any (·.isEmpty) then none
  else some (keys.map fun key => String.ofList (key.map Char.toLower))

/-! ### Values -/

def isSpace (char : Char) : Bool :=
  char == ' ' || char == '\t' || char == '\n' || char == '\r' || char == '\x0C'

def isSeparator (char : Char) : Bool :=
  char == ',' || char == '\x7b' || char == '\x7d' || char == '[' || char == ']'

def isBare (char : Char) : Bool :=
  char.isAlphanum || char == '_' || char == '-'

def skipSpace (text : List Char) : List Char :=
  text.dropWhile isSpace

def greatestUnsigned : Nat := 0xFFFFFFFFFFFFFFFF

/-- A bare value: a float if it has a point and reads as one, else a whole number if it reads as
one that fits, else text. A plus sign may stand before a number. -/
def bareScalar (text : List Char) : Scalar :=
  let unsigned? : Option Nat := match text with
    | '-' :: _ => none
    | _ => ((Decimal.int? text).map Int.toNat).filter (· ≤ greatestUnsigned)
  let signed? : Option Int := (Decimal.int? text).filter fun value =>
    -0x8000000000000000 ≤ value && value < 0x8000000000000000
  let real? : Option Decimal.Double := if '.' ∈ text then Decimal.double? text else none
  match real?, unsigned?, signed? with
  | some value, _, _ => .real value
  | none, some value, _ => .unsigned value
  | none, none, some value => .signed value
  | none, none, none => .text (String.ofList text)

def quoted : List Char → Option (String × List Char)
  | '\x22' :: text => do
    let (body, rest) ← Text.quotedBody '\x22' text
    return (String.ofList (← Text.unescape false body), rest)
  | _ => none

def key (text : List Char) : Option (String × List Char) := do
  let text := skipSpace text
  let (name, rest) ← match text with
    | '\x22' :: _ => quoted text
    | _ =>
      let name := text.takeWhile isBare
      if name.isEmpty then none else some (String.ofList name, text.dropWhile isBare)
  return (name, skipSpace rest)

mutual

/-- A value, with blanks around it. Each nested step uses up one unit of `depth`. -/
def value : (depth : Nat) → List Char → Option (Value × List Char)
  | 0, _ => none
  | depth + 1, text => do
    let text := skipSpace text
    let scalar (scalar : Scalar) : Value := .scalar .environment scalar
    let (value, rest) ← match text with
      | 't' :: 'r' :: 'u' :: 'e' :: rest => some (scalar (.boolean true), rest)
      | 'f' :: 'a' :: 'l' :: 's' :: 'e' :: rest => some (scalar (.boolean false), rest)
      | '\x7b' :: rest => (fields depth rest).map fun (fields, rest) => (Value.table .environment fields, rest)
      | '[' :: rest => (items depth rest).map fun (items, rest) => (Value.list .environment items, rest)
      | '\x22' :: _ => (quoted text).map fun (text, rest) => (scalar (.text text), rest)
      | '\x27' :: rest => match rest with
        | char :: '\x27' :: rest => some (scalar (.character char), rest)
        | _ => none
      | _ =>
        let bare := text.takeWhile (!isSeparator ·)
        some (scalar (bareScalar (Text.trim bare)), text.dropWhile (!isSeparator ·))
    return (value, skipSpace rest)

/-- The items of a list after its opening bracket. A comma may follow the last one. -/
def items : (depth : Nat) → List Char → Option (List Value × List Char)
  | 0, _ => none
  | _ + 1, ']' :: rest => some ([], rest)
  | depth + 1, text => do
    let (item, rest) ← value depth text
    match rest with
    | ',' :: rest => do
      let (others, rest) ← items depth rest
      return (item :: others, rest)
    | ']' :: rest => return ([item], rest)
    | _ => none

/-- The fields of a table after its opening brace. The last of several with one key counts. -/
def fields : (depth : Nat) → List Char → Option (Fields × List Char)
  | 0, _ => none
  | _ + 1, '\x7d' :: rest => some ([], rest)
  | depth + 1, text => do
    let (name, rest) ← key text
    let '=' :: rest := rest | none
    let (field, rest) ← value depth rest
    match rest with
    | ',' :: rest => do
      let (others, rest) ← fields depth rest
      let set := if (others.get? name).isSome then others else Fields.set name field others
      return (set, rest)
    | '\x7d' :: rest => return ([(name, field)], rest)
    | _ => none

end

/-- The value of a variable: what the grammar reads, if it reads all of the text, and otherwise
the text as it stands. Every step into a list or table and past an item uses up a character, so
twice their number bounds the depth. -/
def read (text : String) : Value :=
  match value (2 * text.length + 3) text.toList with
  | some (value, []) => value
  | _ => .scalar .environment (.text text)

/-- The settings in a list of variables; of two that set the same key the later one counts. -/
def layer (environment : List (String × String)) : Value :=
  environment.foldl (fun settings (name, text) =>
    match keys? name with
    | some keys => settings.merge (Value.nested .environment (read text) keys)
    | none => settings) (.table .environment [])

end Registrar.Config.Environment
