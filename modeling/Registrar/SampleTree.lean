import Registrar.FileSystem.Operations

/-! A directory with sample sources, which is never left: neither a name nor a link leads out of it. -/
namespace Registrar.SampleTree

inductive Action where
  | write (name : String)
  | read (name : String)
  | stat (name : String)
  | entryName
  deriving DecidableEq, Repr

def Action.described : Action → String
  | write name => "write " ++ name
  | read name => "read " ++ name
  | stat name => "stat " ++ name
  | entryName => "entry name"

structure Failure where
  action : Action
  error : IoError
  deriving DecidableEq, Repr

def Failure.message (failure : Failure) : String :=
  failure.action.described ++ ": " ++ failure.error.message

def failing {α : Type} (action : Action) (result : Except IoError α) : Except Failure α :=
  result.mapError fun error => ⟨action, error⟩

def write (fs : FileSystem) (top : Location) (name text : String) : Except Failure FileSystem :=
  failing (.write name) (fs.writeFile (.beneath top) (Utf8.bytes name) (Utf8.bytes text))

def read (fs : FileSystem) (top : Location) (name : String) : Except Failure String :=
  failing (.read name) do
    match Utf8.string? (← fs.readFile (.beneath top) (Utf8.bytes name)) with
    | some text => .ok text
    | none => .error .undecodableContent

def modified (fs : FileSystem) (top : Location) (name : String) : Except Failure (Option Nat) :=
  failing (.stat name) do
    match ← fs.status (.beneath top) (Utf8.bytes name) with
    | .file _ written => .ok (some written)
    | _ => .ok none

def generatedName : String := "generated"

/-- The names in the directory for companions, in order. There are none without the directory. -/
def generatedFiles (fs : FileSystem) (top : Location) : Except Failure (List String) :=
  match fs.openDirectory (.beneath top) (Utf8.bytes generatedName) with
  | .error _ => .ok []
  | .ok directory =>
    let names := (fs.children directory).map Prod.fst
    (names.mergeSort Path.bytesLe).mapM fun name =>
      match Utf8.string? name with
      | some name => .ok name
      | none => .error ⟨.entryName, .undecodableName⟩

end Registrar.SampleTree
