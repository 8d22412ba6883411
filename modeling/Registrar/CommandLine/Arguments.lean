import Registrar.Config.Settings

/-! Command lines. A word is an option, a divider or plain text. An option takes the word after it
as its value, or what stands behind an equals sign in its own word; after the divider every word is
plain. An option is stored only when the next known word or the end comes, so an unknown word is
reported before a value that does not fit. -/
namespace Registrar.CommandLine

inductive ValueOption where
  | profile
  | config
  deriving DecidableEq, Repr

namespace ValueOption

def all : List ValueOption := [profile, config]

def name : ValueOption → String
  | profile => "profile"
  | config => "config"

def shown : ValueOption → String
  | profile => "--profile <PROFILE>"
  | config => "--config <path>"

end ValueOption

inductive Notice where
  | help
  | version
  deriving DecidableEq, Repr

namespace Notice

def all : List Notice := [help, version]

def name : Notice → String
  | help => "help"
  | version => "version"

def letter : Notice → Char
  | help => 'h'
  | version => 'V'

end Notice

inductive UsageError where
  | unexpectedArgument (word : String)
  | unexpectedValue (notice : Notice) (value : String)
  | repeatedOption (option : ValueOption)
  | missingValue (option : ValueOption)
  | invalidValue (option : ValueOption) (value : String)
  deriving DecidableEq, Repr

namespace UsageError

def message : UsageError → String
  | unexpectedArgument word => "error: unexpected argument '" ++ word ++ "' found"
  | unexpectedValue notice value =>
    "error: unexpected value '" ++ value ++ "' for '--" ++ notice.name
      ++ "' found; no more were expected"
  | repeatedOption option =>
    "error: the argument '" ++ option.shown ++ "' cannot be used multiple times"
  | missingValue option =>
    "error: a value is required for '" ++ option.shown ++ "' but none was supplied"
  | invalidValue option value => "error: invalid value '" ++ value ++ "' for '" ++ option.shown ++ "'"

end UsageError

structure Arguments where
  libName : Option String := none
  sourceDir : Option String := none
  profile : Option Profile := none
  config : Option String := none
  deriving DecidableEq, Repr

def Arguments.chosen (arguments : Arguments) : Config.Chosen where
  profile := arguments.profile
  sourceDir := arguments.sourceDir
  libName := arguments.libName

inductive Command where
  | generate (arguments : Arguments)
  | shortHelp
  | longHelp
  | version
  deriving DecidableEq, Repr

inductive Word where
  | divider
  | long (name : String) (value : Option String)
  | short (letter : Char)
  | plain (text : String)
  deriving DecidableEq, Repr

def Word.read (text : String) : Word :=
  match text.toList with
  | ['-', '-'] => .divider
  | '-' :: '-' :: rest =>
    let name := String.ofList (rest.takeWhile (· != '='))
    match rest.dropWhile (· != '=') with
    | [] => .long name none
    | _ :: value => .long name (some (String.ofList value))
  | '-' :: letter :: _ => .short letter
  | _ => .plain text

/-- What was read so far: the arguments that are stored, and the last option, which is not stored
yet, with its value if that was there. -/
structure Progress where
  arguments : Arguments := {}
  pending : Option (ValueOption × Option String) := none
  deriving DecidableEq, Repr

namespace Progress

/-- Stores an option with its value. An option that was stored before is refused, whatever its
value is now. -/
def store (arguments : Arguments) (option : ValueOption) (value : String) :
    Except UsageError Arguments :=
  match option with
  | .config =>
    if arguments.config.isSome then .error (.repeatedOption .config)
    else .ok { arguments with config := some value }
  | .profile =>
    if arguments.profile.isSome then .error (.repeatedOption .profile)
    else match Profile.ofName? value with
      | some profile => .ok { arguments with profile := some profile }
      | none => .error (if value = "" then .missingValue .profile else .invalidValue .profile value)

def stored (progress : Progress) : Except UsageError Arguments :=
  match progress.pending with
  | none => .ok progress.arguments
  | some (option, some value) => store progress.arguments option value
  | some (option, none) => .error (.missingValue option)

/-- Takes a plain word: the first is the library's name, the second the source directory. -/
def takePlain (progress : Progress) (text : String) : Except UsageError Progress :=
  if progress.arguments.libName.isNone then do
    return { arguments := { ← progress.stored with libName := some text } }
  else if progress.arguments.sourceDir.isNone then do
    return { arguments := { ← progress.stored with sourceDir := some text } }
  else .error (.unexpectedArgument text)

def waiting? (progress : Progress) : Option ValueOption :=
  match progress.pending with
  | some (option, none) => some option
  | _ => none

end Progress

/-- The answer to an option that ends the run, once the last option is stored. -/
def notify (progress : Progress) (command : Command) : Except UsageError Command := do
  let _ ← progress.stored
  return command

def readPlain (progress : Progress) : List String → Except UsageError Command
  | [] => do return .generate (← progress.stored)
  | text :: texts => do readPlain (← progress.takePlain text) texts

def readWords (progress : Progress) : List String → Except UsageError Command
  | [] => do return .generate (← progress.stored)
  | text :: texts =>
    match Word.read text with
    | .divider => readPlain progress texts
    | .plain text =>
      match progress.waiting? with
      | some option => readWords { progress with pending := some (option, some text) } texts
      | none => do readWords (← progress.takePlain text) texts
    | .short letter =>
      match Notice.all.find? (·.letter == letter) with
      | some .help => notify progress .shortHelp
      | some .version => notify progress .version
      | none => .error (.unexpectedArgument ("-" ++ letter.toString))
    | .long name value =>
      match Notice.all.find? (·.name == name), ValueOption.all.find? (·.name == name), value with
      | some notice, _, some value => .error (.unexpectedValue notice value)
      | some .help, _, none => notify progress .longHelp
      | some .version, _, none => notify progress .version
      | none, some option, some value => do
        let arguments ← Progress.store (← progress.stored) option value
        readWords { arguments } texts
      | none, some option, none => do
        readWords { arguments := ← progress.stored, pending := some (option, none) } texts
      | none, none, _ => .error (.unexpectedArgument ("--" ++ name))

def read (words : List String) : Except UsageError Command :=
  readWords {} words

end Registrar.CommandLine
