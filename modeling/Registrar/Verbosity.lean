import Registrar.Event

/-! Which events are shown. A variable of the environment sets the least level. -/
namespace Registrar

inductive Verbosity where
  | silent
  | errors
  | warnings
  | infos
  | details
  | traces
  deriving DecidableEq, Repr

namespace Verbosity

def variableName : String := "RUST_LOG"

def default : Verbosity := infos

def spellings : List (Verbosity × String × String) :=
  [(silent, "off", "0"), (errors, "error", "1"), (warnings, "warn", "2"), (infos, "info", "3"),
    (details, "debug", "4"), (traces, "trace", "5")]

/-- The verbosity that a text sets: a name in any case, or a number. No text at all leaves the
errors, and a text that is neither changes nothing. -/
def read (text : String) : Verbosity :=
  if text.isEmpty then errors
  else
    let lowered := text.map Char.toLower
    match spellings.find? fun (_, name, number) => lowered == name || text == number with
    | some (verbosity, _) => verbosity
    | none => default

def ofVariables (environment : List (String × String)) : Verbosity :=
  match environment.lookup variableName with
  | some text => read text
  | none => default

def shows : Verbosity → Level → Bool
  | silent, _ | errors, _ => false
  | warnings, level => level = .warn
  | _, _ => true

def lines (verbosity : Verbosity) (events : List Event) : List String :=
  (events.filter (verbosity.shows ·.level)).map Event.line

end Verbosity

end Registrar
