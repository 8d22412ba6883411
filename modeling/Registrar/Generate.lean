import Registrar.Companion
import Registrar.Output
import Registrar.Source

/-! Generation. All sources are read and turned into companions before anything is written, so a
source that cannot be used leaves the file system as it was. -/
namespace Registrar

structure Request where
  sourceDir : String
  namespaceOverride : Option String
  vocabulary : Vocabulary
  deriving DecidableEq, Repr

structure Artifact where
  source : String
  fileName : String
  content : String
  deriving DecidableEq, Repr

/-- What a run did, with the paths of the companions in the order of the sources' names. -/
structure Summary where
  discovered : Nat
  skippedEmpty : Nat
  updated : List String
  unchanged : List String
  deriving DecidableEq, Repr

namespace Generate

def outputFileName (name : String) (vocabulary : Vocabulary) : String :=
  vocabulary.outputPrefix ++ name

def outputDir (sourceDir : String) (vocabulary : Vocabulary) : String :=
  Path.join sourceDir vocabulary.outputDir

def scanFailure (vocabulary : Vocabulary) (file : String) : ScanError → Error
  | .missingNamespace => .missingNamespace file vocabulary.namespaceMarker
  | .missingSuiteDeclaration => .missingSuiteDeclaration file vocabulary.suiteMarker
  | .blankSuiteName => .blankSuiteName file vocabulary.suiteMarker

def buildArtifact (request : Request) (name : String) (text : List Char) : Logged Error Artifact := do
  .tell (.processing name)
  match scan request.vocabulary request.namespaceOverride text with
  | .error error => .lift (.error (scanFailure request.vocabulary name error))
  | .ok { extraction, unnamed } =>
    .tellAll (List.replicate unnamed (.unnamedTest request.vocabulary.testMarker))
    .tell (.extracted name extraction.library extraction.suite extraction.tests.length)
    return {
      source := name
      fileName := outputFileName name request.vocabulary
      content := Companion.content request.vocabulary extraction }

/-- The companion of one source; an empty source has none. -/
def prepare (fs : FileSystem) (directory : Location) (request : Request) (source : SourceFile) :
    Logged Error (Option Artifact) := do
  let text ← Logged.lift (Source.read fs directory source)
  if text = [] then
    .tell (.emptySource source.name)
    return none
  else
    return some (← buildArtifact request source.name text)

/-- The sources of a request, how many of them are empty, and the companions of the others. -/
structure Plan where
  sources : List SourceFile
  skippedEmpty : Nat
  artifacts : List Artifact
  deriving DecidableEq, Repr

/-- Finds, reads and renders. Nothing is written. -/
def plan (fs : FileSystem) (request : Request) : Logged Error Plan := do
  .tell (.searching request.sourceDir)
  let directory ← Logged.lift (Source.openDirectory fs request.sourceDir)
  let sources ← Source.locate fs directory request.sourceDir request.vocabulary
  .tell (.found sources.length)
  .tellAll (sources.map fun source => .discovered source.name)
  let prepared ← Logged.forEach (prepare fs directory request) sources
  return { sources, skippedEmpty := prepared.count none, artifacts := prepared.filterMap id }

end Generate

structure Outcome (α : Type) where
  fileSystem : FileSystem
  events : List Event
  result : Except Error α

namespace Generate

/-- Writes the artifacts in order and stops at the first that fails. Each that is written or found
unchanged is given with its path. -/
def writeArtifacts (directory : Location) (root : String) :
    FileSystem → List Artifact → Outcome (List (String × WriteOutcome))
  | fs, [] => ⟨fs, [], .ok []⟩
  | fs, artifact :: artifacts =>
    let target := Path.join root artifact.fileName
    match Output.writeIfChanged fs directory root artifact.fileName artifact.content with
    | .error error => ⟨fs, [], .error error⟩
    | .ok (written, outcome) =>
      let event := match outcome with
        | .updated => Event.saved artifact.source target
        | .unchanged => Event.unchanged artifact.source target
      let rest := writeArtifacts directory root written artifacts
      { rest with
        events := event :: rest.events
        result := rest.result.map ((target, outcome) :: ·) }

def write (fs : FileSystem) (request : Request) (planned : Plan) : Outcome Summary :=
  let root := outputDir request.sourceDir request.vocabulary
  match Output.ensureDirectory fs root with
  | (made, .error error) => ⟨made, [], .error error⟩
  | (made, .ok directory) =>
    let written := writeArtifacts directory root made planned.artifacts
    { written with
      result := written.result.map fun targets => {
        discovered := planned.sources.length
        skippedEmpty := planned.skippedEmpty
        updated := (targets.filter (·.2 == .updated)).map (·.1)
        unchanged := (targets.filter (·.2 == .unchanged)).map (·.1) } }

end Generate

def generate (fs : FileSystem) (request : Request) : Outcome Summary :=
  let planned := Generate.plan fs request
  match planned.result with
  | .error error => ⟨fs, planned.events, .error error⟩
  | .ok plan =>
    let written := Generate.write fs request plan
    { written with events := planned.events ++ written.events }

end Registrar
