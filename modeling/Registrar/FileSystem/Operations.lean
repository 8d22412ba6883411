import Registrar.FileSystem.Resolve

/-! Operations on files and directories by path. -/
namespace Registrar.FileSystem

def status (fs : FileSystem) (scope : Scope) (path : List UInt8) : Except IoError Entry := do
  match ← fs.resolve scope .find path with
  | .present _ entry => .ok entry
  | .missing _ => .error .notFound

def isFile (fs : FileSystem) (path : List UInt8) : Bool :=
  match fs.status .anywhere path with
  | .ok (.file ..) => true
  | _ => false

def isDirectory (fs : FileSystem) (scope : Scope) (path : List UInt8) : Bool :=
  match fs.status scope path with
  | .ok .directory => true
  | _ => false

def openDirectory (fs : FileSystem) (scope : Scope) (path : List UInt8) : Except IoError Location := do
  match ← fs.resolve scope .find path with
  | .present place .directory => .ok place
  | .present _ _ => .error .notDirectory
  | .missing _ => .error .notFound

def readFile (fs : FileSystem) (scope : Scope) (path : List UInt8) : Except IoError (List UInt8) := do
  match ← fs.status scope path with
  | .file content _ => .ok content
  | _ => .error .isDirectory

/-- Gives the file at the end of a path a new content; a missing file is created. -/
def writeFile (fs : FileSystem) (scope : Scope) (path content : List UInt8) :
    Except IoError FileSystem := do
  match ← fs.resolve scope .create path with
  | .present place (.file ..) => .ok (fs.setFile place content)
  | .present _ _ => .error .isDirectory
  | .missing place => .ok (fs.setFile place content)

/-- The place that the last step of a path names, in a directory that exists. That step is not
followed; one that names nothing leads to what exists already. -/
def namedPlace (fs : FileSystem) (path : Path) : Except IoError Location := do
  let here ← fs.start .anywhere path
  match ← fs.walk .anywhere .find linkLimit here path.steps.dropLast true, path.steps.getLast? with
  | .present parent _, some (.down name) =>
    if name.length > Path.longestName then .error .nameTooLong else .ok (parent ++ [name])
  | .present _ _, _ => .error .alreadyExists
  | .missing _, _ => .error .notFound

def newPlace (fs : FileSystem) (path : Path) : Except IoError Location := do
  let place ← fs.namedPlace path
  if (fs.get? place).isSome then .error .alreadyExists else .ok place

def makeDirectory (fs : FileSystem) (path : Path) : Except IoError FileSystem := do
  return fs.set (← fs.newPlace path) .directory

def leadsToDirectory (fs : FileSystem) (path : Path) : Bool :=
  match fs.resolvePath .anywhere .find path with
  | .ok (.present _ .directory) => true
  | _ => false

/-- Makes the first of the directories; if the one above it is missing, makes the others first, the
same way. A directory that is there already is left as it is. What was made before a failure
stays. -/
def makeNested (fs : FileSystem) : List Path → FileSystem × Except IoError Unit
  | [] => (fs, .ok ())
  | path :: above =>
    match fs.makeDirectory path with
    | .ok made => (made, .ok ())
    | .error .notFound =>
      match makeNested fs above with
      | (below, .error error) => (below, .error error)
      | (below, .ok ()) =>
        match below.makeDirectory path with
        | .ok made => (made, .ok ())
        | .error error => (below, if below.leadsToDirectory path then .ok () else .error error)
    | .error error => (fs, if fs.leadsToDirectory path then .ok () else .error error)

def makeDirectories (fs : FileSystem) (path : Path) : FileSystem × Except IoError Unit :=
  fs.makeNested (path :: path.parents)

def makeLink (fs : FileSystem) (path : Path) (target : List UInt8) : Except IoError FileSystem := do
  return fs.set (← fs.newPlace path) (.link target)

/-- Takes away what a path names, links unfollowed, with everything below it. -/
def removeAll (fs : FileSystem) (path : Path) : Except IoError FileSystem := do
  let place ← fs.namedPlace path
  if (fs.get? place).isSome then .ok (fs.eraseWithin place) else .error .notFound

end Registrar.FileSystem
