import Registrar.Error
import Registrar.FileSystem.Operations

/-! Writing generated files. A file is written only where its content differs, so that one that
stays the same keeps its time stamp. -/
namespace Registrar

inductive WriteOutcome where
  | updated
  | unchanged
  deriving DecidableEq, Repr

namespace Output

/-- Opens a directory and makes it first, with those above it, if it is missing. -/
def ensureDirectory (fs : FileSystem) (path : String) : FileSystem × Except Error Location :=
  let bytes := Utf8.bytes path
  let failed (error : IoError) : Except Error Location := .error (.io path error)
  match fs.openDirectory .anywhere bytes with
  | .ok place => (fs, .ok place)
  | .error .notFound =>
    match fs.makeDirectories (Path.parse bytes) with
    | (made, .error error) => (made, failed error)
    | (made, .ok ()) =>
      match made.openDirectory .anywhere bytes with
      | .ok place => (made, .ok place)
      | .error error => (made, failed error)
  | .error error => (fs, failed error)

/-- Gives a file in an open directory, reached from `root`, the content, unless it has it. -/
def writeIfChanged (fs : FileSystem) (directory : Location) (root name content : String) :
    Except Error (FileSystem × WriteOutcome) :=
  let bytes := Utf8.bytes content
  let failed (error : IoError) : Except Error (FileSystem × WriteOutcome) :=
    .error (.io (Path.join root name) error)
  let write : Except Error (FileSystem × WriteOutcome) :=
    match fs.writeFile (.beneath directory) (Utf8.bytes name) bytes with
    | .ok written => .ok (written, .updated)
    | .error error => failed error
  match fs.readFile (.beneath directory) (Utf8.bytes name) with
  | .ok existing => if existing = bytes then .ok (fs, .unchanged) else write
  | .error .notFound => write
  | .error error => failed error

end Output

end Registrar
