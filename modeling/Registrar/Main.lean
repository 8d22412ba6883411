import Registrar.Program
import Registrar.Verbosity

/-! The program itself. It looks at the part of the file system that a run can reach, lets the run
take place on what it saw, and then carries out the changes. -/
namespace Registrar.Host

def placeOf (path : String) : Location :=
  ((path.splitOn "/").filter (· != "")).map Utf8.bytes

def pathOf (place : Location) : String :=
  String.join (place.map fun name => "/" ++ String.ofList (Utf8.decode name))

def wayTo (place : Location) : List Location :=
  (List.range place.length).map fun count => place.take (count + 1)

/-- The target given to a link that leads nowhere: its name holds a zero byte, as no name does. -/
def nowhere : List UInt8 := [Path.slash, 0]

def entryOf (directory : Location) (name : Name) : IO.FS.DirEntry where
  root := pathOf directory ++ "/"
  fileName := String.ofList (Utf8.decode name)

def withDirectory (fs : FileSystem) (place : Location) : FileSystem :=
  (wayTo place).foldl (fun fs place => fs.set place .directory) fs

/-- Adds what lies at a place that is no link, with the directories above it. -/
def withTarget (fs : FileSystem) (place : Location) : IO FileSystem := do
  let path := (entryOf place.dropLast (place.getLast?.getD [])).path
  let fs := withDirectory fs place.dropLast
  match (← path.metadata).type with
  | .dir => return withDirectory fs place
  | .file => return fs.set place (.file (← IO.FS.readBinFile path).toList 0)
  | _ => return fs

def withLink (fs : FileSystem) (directory : Location) (name : Name) : IO FileSystem := do
  let path := (entryOf directory name).path
  let place := directory ++ [name]
  try
    let target := (← IO.FS.realPath path).toString
    withTarget (fs.set place (.link (Utf8.bytes target))) (placeOf target)
  catch
    | .noFileOrDirectory .. | .noSuchThing .. => return fs.set place (.link nowhere)
    | _ => return fs.set place (.link name)

def withEntry (fs : FileSystem) (directory : Location) (name : Name) : IO FileSystem := do
  try
    match (← (entryOf directory name).path.symlinkMetadata).type with
    | .symlink => withLink fs directory name
    | _ => withTarget fs (directory ++ [name])
  catch _ => return fs

def enter (fs : FileSystem) (place : Location) : Option Location :=
  match fs.get? place with
  | some .directory => some place
  | some (.link target) => some (placeOf (String.ofList (Utf8.decode target)))
  | _ => none

def withSteps (fs : FileSystem) (here : Location) : List Step → IO FileSystem
  | [] => return fs
  | .stay :: steps => withSteps fs here steps
  | .up :: steps => withSteps fs here.dropLast steps
  | .down name :: steps => do
    let fs ← withEntry fs here name
    match enter fs (here ++ [name]) with
    | some there => withSteps fs there steps
    | none => return fs

def withPath (fs : FileSystem) (path : String) : IO FileSystem :=
  let path := Path.parse (Utf8.bytes path)
  withSteps fs (if path.absolute then [] else fs.workingDirectory) path.steps

/-- Adds the sources in a directory and the companions that they have already. -/
def withSources (fs : FileSystem) (request : Request) : IO FileSystem := do
  let fs ← withPath fs request.sourceDir
  match fs.openDirectory .anywhere (Utf8.bytes request.sourceDir) with
  | .error _ => return fs
  | .ok directory =>
    let listed ← (entryOf directory [Path.dot]).path.readDir
    let outputDir := Generate.outputDir request.sourceDir request.vocabulary
    let names := (listed.toList.map (·.fileName)).filter (Source.isSourceName request.vocabulary)
    let fs ← names.foldlM (fun fs name => withEntry fs directory (Utf8.bytes name)) fs
    names.foldlM (fun fs name =>
      withPath fs (outputDir ++ "/" ++ Generate.outputFileName name request.vocabulary)) fs

def withSettings (fs : FileSystem) : Option String → IO FileSystem
  | some path => withPath fs path
  | none => (Config.upward fs).foldlM (fun fs (_, path) => withPath fs (path ++ Config.fileName)) fs

def reachable (fs : FileSystem) (words : List String) (environment : List (String × String)) :
    IO FileSystem := do
  match CommandLine.read words with
  | .ok (.generate arguments) =>
    let fs ← withSettings fs arguments.config
    match Config.load fs arguments.config environment arguments.chosen with
    | .ok settings => withSources fs (Program.request settings)
    | .error _ => return fs
  | _ => return fs

/-- Carries out the changes between two states: directories first, those nearer to the root before
those below them. -/
def carryOut (before after : FileSystem) : IO Unit := do
  let changed := after.entries.filter fun (place, entry) => before.get? place != some entry
  let ordered := changed.mergeSort fun left right => left.1.length ≤ right.1.length
  for (place, entry) in ordered do
    match entry with
    | .directory => IO.FS.createDir (pathOf place)
    | .file content _ => IO.FS.writeBinFile (pathOf place) (ByteArray.mk content.toArray)
    | .link _ => pure ()

def environment : IO (List (String × String)) := do
  let bytes ← IO.FS.readBinFile "/proc/self/environ"
  let texts := (String.ofList (Utf8.decode bytes.toList)).splitOn "\x00"
  return texts.filterMap fun text =>
    match text.toList.span (· != '=') with
    | (name, _ :: value) => some (String.ofList name, String.ofList value)
    | _ => none

def usageHint : String :=
  "\nUsage: htest-gen [OPTIONS] [LIB_NAME] [SOURCE_PATH]\n\nFor more information, try '--help'."

end Registrar.Host

open Registrar in
def main (words : List String) : IO UInt32 := do
  let environment ← Host.environment
  let home := Host.placeOf (← IO.FS.realPath ".").toString
  let start := { Host.withDirectory FileSystem.empty home with workingDirectory := home }
  let before ← Host.reachable start words environment
  let finished := run before words environment
  IO.print finished.printed
  for line in (Verbosity.ofVariables environment).lines finished.events do
    IO.eprintln line
  if let some error := finished.usage then
    IO.eprintln error.message
    IO.eprintln Host.usageHint
  Host.carryOut before finished.fileSystem
  unless finished.report.isEmpty do
    IO.eprintln "Error:"
    for line in finished.report do
      IO.eprintln ("   " ++ line)
  return finished.exitCode.toUInt32
