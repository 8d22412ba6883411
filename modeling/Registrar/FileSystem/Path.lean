import Registrar.FileSystem.Basic
import Registrar.Text.Utf8

/-! Paths: where they start, the steps they take, and how two of them join. -/
namespace Registrar

inductive Step where
  | stay
  | up
  | down (name : Name)
  deriving DecidableEq, Repr

/-- A path: its start, its steps, and whether a slash ends it, which asks for a directory. -/
structure Path where
  absolute : Bool
  steps : List Step
  slashed : Bool
  deriving DecidableEq, Repr

namespace Path

def longest : Nat := 4095

def segments : List UInt8 → List Name
  | [] => [[]]
  | byte :: bytes =>
    if byte = slash then [] :: segments bytes
    else match segments bytes with
      | [] => [[byte]]
      | segment :: rest => (byte :: segment) :: rest

def step? (segment : Name) : Option Step :=
  if segment = [] then none
  else if segment = [dot] then some .stay
  else if segment = [dot, dot] then some .up
  else some (.down segment)

def parse (bytes : List UInt8) : Path where
  absolute := bytes.head? = some slash
  steps := (segments bytes).filterMap step?
  slashed := bytes.getLast? = some slash

/-- The ways to the directories above the last step, nearest first: each is the path with more of
its end left out. Steps that stay are left out too, and the start itself is not among them. -/
def parents (path : Path) : List Path :=
  let steps := path.steps.filter (· != .stay)
  (List.range (steps.length - 1)).reverse.map fun count =>
    { absolute := path.absolute, steps := steps.take (count + 1), slashed := false }

/-- Joins two paths. An absolute second path stands alone; otherwise one slash divides the two,
unless the first is empty or ends in one. -/
def join (first second : String) : String :=
  if second.startsWith "/" then second
  else if first.isEmpty || first.endsWith "/" then first ++ second
  else first ++ "/" ++ second

def ofPlace : Location → List UInt8
  | [] => []
  | [name] => name
  | name :: rest => name ++ slash :: ofPlace rest

def bytesLe : List UInt8 → List UInt8 → Bool
  | [], _ => true
  | _ :: _, [] => false
  | left :: lefts, right :: rights => left < right || (left == right && bytesLe lefts rights)

end Path

end Registrar
