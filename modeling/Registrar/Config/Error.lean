import Registrar.Config.Value

/-! Why settings cannot be used. -/
namespace Registrar.Config

inductive Mismatch where
  | unknownVariant (found : String) (choices : List String)
  | invalidType (found expected : String)
  deriving DecidableEq, Repr

/-- The first mismatch, the keys that lead to it, and where the value was set. -/
structure Fault where
  mismatch : Mismatch
  path : List String
  origin : Origin
  deriving DecidableEq, Repr

inductive Error where
  | unreadable
  | unfit (fault : Fault)
  deriving DecidableEq, Repr

def choicesText (choices : List String) : String :=
  String.intercalate " or " (choices.map fun choice => "`" ++ choice ++ "`")

def Mismatch.message : Mismatch → String
  | unknownVariant found choices =>
    "unknown variant: found `" ++ found ++ "`, expected `" ++ choicesText choices ++ "`"
  | invalidType found expected => "invalid type: found " ++ found ++ ", expected " ++ expected

/-- The name of the environment variables that hold settings starts with this. -/
def variableStart : String := "HTEST_GEN_"

def Origin.described : Origin → String
  | defaults => "the defaults"
  | file name => name ++ " TOML file"
  | environment => "`" ++ variableStart ++ "` environment variable(s)"
  | commandLine => "the command line"

def Fault.key (fault : Fault) : String :=
  let joined := String.intercalate "." fault.path
  match fault.origin with
  | .environment => joined.map Char.toUpper
  | _ => "default." ++ joined

def Fault.message (fault : Fault) : String :=
  fault.mismatch.message ++ " for key " ++ Text.quote fault.key ++ " in " ++ fault.origin.described

def Error.message : Error → String
  | unreadable => "the settings file is not valid TOML"
  | unfit fault => fault.message

end Registrar.Config
