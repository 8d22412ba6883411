import Registrar.Config.Toml.Document
import Registrar.Config.Toml.Token

/-! Reading TOML into a table of settings. -/
namespace Registrar.Config.Toml

def dateKey : String := "$__toml_private_datetime"

def bareValue? (origin : Origin) (text : List Char) : Option Value :=
  let scalar (value : Scalar) : Option Value := some (.scalar origin value)
  if text = "true".toList then scalar (.boolean true)
  else if text = "false".toList then scalar (.boolean false)
  else if isDateTime text then
    some (.table origin [(dateKey, .scalar origin (.text (String.ofList text)))])
  else match integer? text, float? text with
    | some value, _ => scalar (.signed value)
    | none, some value => scalar (.real value)
    | none, none => none

/-- A bare value and what follows it. One blank may stand between a date and a time. -/
def bareValue (origin : Origin) (text : List Char) : Option (Value × List Char) :=
  let bare := text.takeWhile isBareValue
  let rest := text.dropWhile isBareValue
  let time := match rest with
    | ' ' :: rest => rest.takeWhile isBareValue
    | _ => []
  if date? bare == some [] && isTime time then
    some (.table origin [(dateKey, .scalar origin (.text (String.ofList (bare ++ ' ' :: time))))],
      rest.drop (time.length + 1))
  else (bareValue? origin bare).map fun value => (value, rest)

mutual

/-- A value that lies inside `deepest - depth` others, and what follows it. Every step into a value
or past an item takes one unit of `fuel`. -/
def value (origin : Origin) : (fuel depth : Nat) → List Char → Option (Value × List Char)
  | 0, _, _ => none
  | fuel + 1, depth, text =>
    match text with
    | '\x22' :: _ | '\x27' :: _ =>
      (string text).map fun (text, rest) => (.scalar origin (.text text), rest)
    | '[' :: rest =>
      match depth with
      | 0 => none
      | depth + 1 => (items origin fuel depth rest).map fun (items, rest) => (.list origin items, rest)
    | '\x7b' :: rest =>
      match depth with
      | 0 => none
      | depth + 1 => do
        let rest := skipSpace rest
        let (items, rest) ← match rest with
          | '\x7d' :: rest => some ([], rest)
          | _ => fields origin fuel depth [] rest
        return (.table origin (Items.toFields origin items), rest)
    | _ => bareValue origin text

/-- The items of an array after its opening bracket. A comma may follow the last one. -/
def items (origin : Origin) : (fuel depth : Nat) → List Char → Option (List Value × List Char)
  | 0, _, _ => none
  | fuel + 1, depth, text => do
    let text ← skipBetween text
    match text with
    | ']' :: rest => return ([], rest)
    | _ =>
      let (item, rest) ← value origin fuel depth text
      match ← skipBetween rest with
      | ',' :: rest => do
        let (others, rest) ← items origin fuel depth rest
        return (item :: others, rest)
      | ']' :: rest => return ([item], rest)
      | _ => none

/-- The fields of an inline table after its opening brace, added to those before. -/
def fields (origin : Origin) : (fuel depth : Nat) → Items → List Char → Option (Items × List Char)
  | 0, _, _, _ => none
  | fuel + 1, depth, before, text => do
    let (path, rest) ← key text
    let '=' :: rest := rest | none
    let (field, rest) ← value origin fuel depth (skipSpace rest)
    let before ← before.insert path.dropLast (path.getLast?.getD "") field
    match skipSpace rest with
    | ',' :: rest => fields origin fuel depth before rest
    | '\x7d' :: rest => return (before, rest)
    | _ => none

end

/-- A document as far as it has been read, with the header that keys are set under. -/
structure Progress where
  header : List String
  items : Items

def header (text : List Char) : Option (List String × String × List Char) := do
  let (path, rest) ← key text
  let ']' :: rest := rest | none
  return (path.dropLast, path.getLast?.getD "", rest)

/-- One expression: a comment, a header, a key with a value, or an empty line. -/
def expression (origin : Origin) (progress : Progress) (text : List Char) :
    Option (Progress × List Char) :=
  match skipSpace text with
  | [] => some (progress, [])
  | '\n' :: rest => some (progress, rest)
  | '#' :: rest => do
    return (progress, ← endLine ('#' :: rest))
  | '[' :: '[' :: rest => do
    let (path, last, rest) ← header rest
    let ']' :: rest := rest | none
    return (⟨path ++ [last], ← progress.items.openElement path last⟩, ← endLine rest)
  | '[' :: rest => do
    let (path, last, rest) ← header rest
    return (⟨path ++ [last], ← progress.items.openTable path last⟩, ← endLine rest)
  | text => do
    let (path, rest) ← key text
    let '=' :: rest := rest | none
    let (set, rest) ← value origin (2 * rest.length + 3) (deepest - 1) (skipSpace rest)
    let changed ← progress.items.descend false
      (fun _ items => items.insert path.dropLast (path.getLast?.getD "") set) progress.header .explicit
    return (⟨progress.header, changed⟩, ← endLine rest)

/-- The expressions of a document. Each takes up a character, and one unit of `fuel`. -/
def expressions (origin : Origin) : (fuel : Nat) → Progress → List Char → Option Progress
  | _, progress, [] => some progress
  | 0, _, _ => none
  | fuel + 1, progress, text => do
    let (next, rest) ← expression origin progress text
    expressions origin fuel next rest

/-- The settings in a TOML text, which a byte order mark may open. -/
def read (origin : Origin) (text : List Char) : Option Value := do
  let text := match text with
    | '\uFEFF' :: text => text
    | _ => text
  let text ← unifyLines text
  let progress ← expressions origin text.length ⟨[], []⟩ text
  return .table origin (Items.toFields origin progress.items)

end Registrar.Config.Toml
