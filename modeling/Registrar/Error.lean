import Registrar.Config.Error
import Registrar.FileSystem.Basic

/-! Why a run fails. Each failure ends the run. -/
namespace Registrar

inductive Error where
  | directoryNotFound (path : String)
  | missingNamespace (file marker : String)
  | missingSuiteDeclaration (file marker : String)
  | blankSuiteName (file marker : String)
  | configNotFound (path : String)
  | config (error : Config.Error)
  | io (path : String) (error : IoError)
  deriving DecidableEq, Repr

namespace Error

def message : Error → String
  | directoryNotFound path => "source directory " ++ path ++ " does not exist or is not a directory"
  | missingNamespace file marker =>
    "no namespace defined for " ++ file ++ "; pass LIB_NAME or declare " ++ marker
  | missingSuiteDeclaration file marker => "no " ++ marker ++ " defined in " ++ file
  | blankSuiteName file marker => marker ++ " in " ++ file ++ " does not name a test class"
  | configNotFound path => "configuration file " ++ path ++ " not found"
  | config error => "invalid configuration: " ++ error.message
  | io path error => "I/O error at " ++ path ++ ": " ++ error.message

def cause? : Error → Option String
  | config error => some error.message
  | io _ error => some error.message
  | _ => none

def report (error : Error) : List String :=
  ("0: " ++ error.message) :: (error.cause?.map ("1: " ++ ·)).toList

end Error

end Registrar
