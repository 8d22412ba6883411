import Registrar.Decimal.Shortest
import Registrar.Text.Quoted

/-! Settings before they are given a type. Each value keeps where it came from, for messages. -/
namespace Registrar.Config

inductive Origin where
  | defaults
  | file (name : String)
  | environment
  | commandLine
  deriving DecidableEq, Repr

inductive Scalar where
  | text (text : String)
  | character (char : Char)
  | boolean (value : Bool)
  | signed (value : Int)
  | unsigned (value : Nat)
  | real (value : Decimal.Double)
  deriving DecidableEq, Repr

namespace Scalar

def plain : Scalar → String
  | text value => value
  | character char => char.toString
  | boolean value => toString value
  | signed value => toString value
  | unsigned value => toString value
  | real value => value.text

def described : Scalar → String
  | text value => "string " ++ Text.quote value
  | character char => "string " ++ Text.quote char.toString
  | boolean value => "bool " ++ toString value
  | signed value => "signed int `" ++ toString value ++ "`"
  | unsigned value => "unsigned int `" ++ toString value ++ "`"
  | real value => "float `" ++ value.text ++ "`"

end Scalar

/-- A value. The fields of a table are in the order of their keys, and no key occurs twice. -/
inductive Value where
  | scalar (origin : Origin) (scalar : Scalar)
  | list (origin : Origin) (items : List Value)
  | table (origin : Origin) (fields : List (String × Value))

abbrev Fields := List (String × Value)

namespace Fields

def get? (fields : Fields) (key : String) : Option Value :=
  fields.lookup key

def set (key : String) (value : Value) : Fields → Fields
  | [] => [(key, value)]
  | (other, old) :: rest =>
    if key = other then (key, value) :: rest
    else if key < other then (key, value) :: (other, old) :: rest
    else (other, old) :: set key value rest

end Fields

namespace Value

def origin : Value → Origin
  | scalar origin _ => origin
  | list origin _ => origin
  | table origin _ => origin

def described : Value → String
  | scalar _ value => value.described
  | list .. => "sequence"
  | table .. => "map"

mutual

/-- A later value on top of an earlier one. Two tables merge key by key and count as set where the
later one was; anything else is replaced. -/
def merge (earlier : Value) : Value → Value
  | .table origin later =>
    match earlier with
    | .table _ fields => .table origin (mergeFields fields later)
    | _ => .table origin later
  | .list origin items => .list origin items
  | .scalar origin value => .scalar origin value

def mergeFields (earlier : Fields) : Fields → Fields
  | [] => earlier
  | (key, later) :: rest =>
    let merged := match Fields.get? earlier key with
      | some value => merge value later
      | none => later
    mergeFields (Fields.set key merged earlier) rest

end

def nested (origin : Origin) (value : Value) : List String → Value
  | [] => value
  | key :: keys => .table origin [(key, nested origin value keys)]

end Value

end Registrar.Config
