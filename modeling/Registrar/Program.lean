import Registrar.CommandLine.Help
import Registrar.Config.Load
import Registrar.Generate

/-! A whole run of the program, from its words and variables to what it leaves. -/
namespace Registrar

structure Finished where
  fileSystem : FileSystem
  printed : String := ""
  events : List Event := []
  usage : Option CommandLine.UsageError := none
  failure : Option Error := none
  deriving DecidableEq

namespace Finished

/-- The exit code: two for a command line that cannot be used, one for a failure, else zero. -/
def exitCode (finished : Finished) : Nat :=
  if finished.usage.isSome then 2 else if finished.failure.isSome then 1 else 0

def report (finished : Finished) : List String :=
  match finished.failure with
  | some error => error.report
  | none => []

end Finished

namespace Program

def request (settings : Config.Settings) : Request where
  sourceDir := settings.sourceDir
  namespaceOverride := settings.namespaceOverride
  vocabulary := settings.vocabulary

def work (fs : FileSystem) (arguments : CommandLine.Arguments) (environment : List (String × String)) :
    Outcome Unit :=
  match Config.load fs arguments.config environment arguments.chosen with
  | .error error => ⟨fs, [.started], .error error⟩
  | .ok settings =>
    let generated := generate fs (request settings)
    let before := [.started, .usingProfile settings.profile] ++ generated.events
    match generated.result with
    | .error error => ⟨generated.fileSystem, before, .error error⟩
    | .ok summary =>
      ⟨generated.fileSystem,
        before ++ [.completed summary.discovered summary.updated.length summary.unchanged.length
          summary.skippedEmpty], .ok ()⟩

end Program

/-- Runs the program with the words of its command line and the variables of its environment. -/
def run (fs : FileSystem) (words : List String) (environment : List (String × String)) : Finished :=
  match CommandLine.read words with
  | .error error => { fileSystem := fs, usage := some error }
  | .ok (.generate arguments) =>
    let worked := Program.work fs arguments environment
    { fileSystem := worked.fileSystem
      events := worked.events
      failure := match worked.result with
        | .error error => some error
        | .ok () => none }
  | .ok command => { fileSystem := fs, printed := (command.notice?).getD "" }

end Registrar
