import Registrar.FileSystem.Path

/-! Resolving paths. A path is walked step by step from a directory, through symbolic links, and
ends at an entry or at a place where one is missing. A walk can be confined to a directory: then
neither a step up nor a link leaves it. -/
namespace Registrar

inductive Scope where
  | anywhere
  | beneath (top : Location)
  deriving DecidableEq, Repr

inductive Purpose where
  | find
  /-- Opens a file that is created if it is missing. A slash at the end is refused. -/
  | create
  deriving DecidableEq, Repr

inductive Target where
  /-- At an entry that is no link. -/
  | present (place : Location) (entry : Entry)
  /-- In an existing directory, at a name that is missing from it. -/
  | missing (place : Location)
  deriving DecidableEq, Repr

namespace FileSystem

def linkLimit : Nat := 40

/-- Walks the steps from the directory `here`. At a link it goes on with `follow`, which gets the
directory of the link, its target, the steps left, and whether the path must end in a directory. -/
def traverse (fs : FileSystem) (scope : Scope) (purpose : Purpose)
    (follow : Location → Path → List Step → Bool → Except IoError Target) :
    Location → List Step → Bool → Except IoError Target
  | here, [], _ => .ok (.present here .directory)
  | here, .stay :: rest, slashed => traverse fs scope purpose follow here rest slashed
  | here, .up :: rest, slashed =>
    if scope = .beneath here then .error .leavesDirectory
    else traverse fs scope purpose follow here.dropLast rest slashed
  | here, .down name :: rest, slashed =>
    if purpose = .create ∧ rest = [] ∧ slashed then .error .isDirectory
    else if name.length > Path.longestName then .error .nameTooLong
    else
      let there := here ++ [name]
      match fs.get? there with
      | none => if rest = [] then .ok (.missing there) else .error .notFound
      | some .directory => traverse fs scope purpose follow there rest slashed
      | some (.file content written) =>
        if rest = [] ∧ ¬ slashed then .ok (.present there (.file content written))
        else .error .notDirectory
      | some (.link target) => follow here (Path.parse target) rest slashed

def walk (fs : FileSystem) (scope : Scope) (purpose : Purpose) :
    Nat → Location → List Step → Bool → Except IoError Target
  | 0 => traverse fs scope purpose fun _ _ _ _ => .error .tooManyLinks
  | links + 1 => traverse fs scope purpose fun here target rest slashed =>
    let slashed := slashed || (rest = [] && target.slashed)
    if target.absolute then
      match scope with
      | .beneath _ => .error .leavesDirectory
      | .anywhere => walk fs scope purpose links [] (target.steps ++ rest) slashed
    else walk fs scope purpose links here (target.steps ++ rest) slashed

def start (fs : FileSystem) (scope : Scope) (path : Path) : Except IoError Location :=
  match scope with
  | .beneath top => if path.absolute then .error .leavesDirectory else .ok top
  | .anywhere => .ok (if path.absolute then [] else fs.workingDirectory)

def resolvePath (fs : FileSystem) (scope : Scope) (purpose : Purpose) (path : Path) :
    Except IoError Target := do
  let here ← fs.start scope path
  fs.walk scope purpose linkLimit here path.steps path.slashed

def readPath (scope : Scope) (bytes : List UInt8) : Except IoError Path :=
  if 0 ∈ bytes then
    .error (match scope with
      | .anywhere => .zeroByteInPath
      | .beneath _ => .zeroByteInConfinedPath)
  else if bytes = [] then .error .notFound
  else if bytes.length > Path.longest then .error .nameTooLong
  else .ok (Path.parse bytes)

def resolve (fs : FileSystem) (scope : Scope) (purpose : Purpose) (bytes : List UInt8) :
    Except IoError Target := do
  fs.resolvePath scope purpose (← readPath scope bytes)

end FileSystem

end Registrar
