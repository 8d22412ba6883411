import Registrar.Error
import Registrar.Event
import Registrar.FileSystem.Operations
import Registrar.Text.Blank

/-! Finding and reading test sources. -/
namespace Registrar

structure SourceFile where
  name : String
  path : String
  linked : Bool
  deriving DecidableEq, Repr

namespace Source

abbrev pathBytes : String → List UInt8 := Utf8.bytes

def openDirectory (fs : FileSystem) (path : String) : Except Error Location :=
  match fs.openDirectory .anywhere (pathBytes path) with
  | .ok place => .ok place
  | .error .notFound | .error .notDirectory => .error (.directoryNotFound path)
  | .error error => .error (.io path error)

def isSourceName (vocabulary : Vocabulary) (name : String) : Bool :=
  vocabulary.extension.toList.isSuffixOf name.toList && name != vocabulary.frameworkSource

/-- Judges one entry of the source directory `root`. Files are sources, and so are links that lead
to a file, inside or outside the directory. A link that leads nowhere is passed over with a
warning, anything else in silence. -/
def judge (fs : FileSystem) (root : String) (vocabulary : Vocabulary) :
    Name × Entry → Logged Error (Option SourceFile)
  | (bytes, entry) =>
    match Utf8.string? bytes with
    | none => .lift (.error (.io root .undecodableName))
    | some name =>
      if isSourceName vocabulary name then
        let path := Path.join root name
        match entry with
        | .file .. => pure (some { name, path, linked := false })
        | .directory => pure none
        | .link _ =>
          match fs.status .anywhere (pathBytes path) with
          | .ok (.file ..) => pure (some { name, path, linked := true })
          | .ok _ => pure none
          | .error .notFound => do
            .tell (.danglingLink path)
            return none
          | .error error => .lift (.error (.io path error))
      else pure none

/-- Judges the entries in the order in which they are listed, and puts the sources in the order of
their names. -/
def gather (fs : FileSystem) (root : String) (vocabulary : Vocabulary)
    (entries : List (Name × Entry)) : Logged Error (List SourceFile) := do
  let judged ← Logged.forEach (judge fs root vocabulary) entries
  return (judged.filterMap id).mergeSort fun left right =>
    Path.bytesLe (pathBytes left.name) (pathBytes right.name)

def locate (fs : FileSystem) (directory : Location) (root : String) (vocabulary : Vocabulary) :
    Logged Error (List SourceFile) :=
  gather fs root vocabulary (fs.children directory)

/-- The bytes of a test source. A link is followed wherever it leads; a file is read inside the
open directory. -/
def readBytes (fs : FileSystem) (directory : Location) (source : SourceFile) :
    Except IoError (List UInt8) :=
  if source.linked then fs.readFile .anywhere (pathBytes source.path)
  else fs.readFile (.beneath directory) (pathBytes source.name)

def read (fs : FileSystem) (directory : Location) (source : SourceFile) :
    Except Error (List Char) :=
  match readBytes fs directory source with
  | .ok bytes => .ok (Text.withoutReturns (Utf8.decode bytes))
  | .error error => .error (.io source.path error)

end Source

end Registrar
