import Registrar.Config.Settings
import Registrar.Config.Toml.Reader
import Registrar.Error
import Registrar.FileSystem.Operations

/-! Loading settings: the settings file is found and read, and settled with the other layers. -/
namespace Registrar.Config

def fileName : String := "htest-gen.toml"

def hasFile (fs : FileSystem) (directory : Location) (name : String) : Bool :=
  match fs.walk .anywhere .find FileSystem.linkLimit directory [.down (Utf8.bytes name)] false with
  | .ok (.present _ (.file ..)) => true
  | _ => false

/-- The path of the settings file in the nearest of some directories that has one. Each directory is
given with the path that leads to it. -/
def nearest? (fs : FileSystem) : List (Location × String) → Option String
  | [] => none
  | (directory, path) :: above =>
    if hasFile fs directory fileName then some (path ++ fileName) else nearest? fs above

/-- The working directory and those above it, nearest first, each with the path that leads there. -/
def upward (fs : FileSystem) : List (Location × String) :=
  (List.range (fs.workingDirectory.length + 1)).map fun count =>
    (fs.workingDirectory.take (fs.workingDirectory.length - count),
      String.join (List.replicate count "../"))

/-- What messages call a settings file: its path without the steps that stay. -/
def shownPath (path : String) : String :=
  let steps := (path.splitOn "/").filter fun step => step != "" && step != "."
  (if path.startsWith "/" then "/" else "") ++ String.intercalate "/" steps

/-- The path of the settings file, if there is one. A file that is asked for must exist. -/
def locate (fs : FileSystem) : Option String → Except Registrar.Error (Option String)
  | none => .ok (nearest? fs (upward fs))
  | some path => if fs.isFile (Utf8.bytes path) then .ok (some path) else .error (.configNotFound path)

def readFile (fs : FileSystem) (path : String) : Except Registrar.Error Value :=
  match fs.readFile .anywhere (Utf8.bytes path) with
  | .error _ => .error (.config .unreadable)
  | .ok bytes =>
    match (Utf8.decode? bytes).bind (Toml.read (.file (shownPath path))) with
    | some layer => .ok layer
    | none => .error (.config .unreadable)

def fileLayer (fs : FileSystem) (path : Option String) : Except Registrar.Error (Option Value) := do
  match ← locate fs path with
  | some path => return some (← readFile fs path)
  | none => return none

def load (fs : FileSystem) (path : Option String) (environment : List (String × String))
    (chosen : Chosen) : Except Registrar.Error Settings := do
  let file ← fileLayer fs path
  match settle file environment chosen with
  | .ok settings => .ok settings
  | .error fault => .error (.config (.unfit fault))

end Registrar.Config
