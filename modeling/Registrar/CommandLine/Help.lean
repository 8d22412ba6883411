import Registrar.CommandLine.Arguments
import Registrar.Event

/-! The texts that a command line can ask for. -/
namespace Registrar.CommandLine

def text (lines : List String) : String :=
  String.join (lines.map (· ++ "\n"))

def shortHelp : String :=
  text [
    "Generates unit test registration sources for C++ test files",
    "",
    "Usage: htest-gen [OPTIONS] [LIB_NAME] [SOURCE_PATH]",
    "",
    "Arguments:",
    "  [LIB_NAME]     Name of the library. When omitted, each source's namespace marker is used",
    "  [SOURCE_PATH]  Directory holding the unit test sources [default: ../../unittest]",
    "",
    "Options:",
    "      --profile <PROFILE>  Marker vocabulary to scan for and emit [possible values: htest, hunittest]",
    "      --config <path>      Configuration file to load instead of `htest-gen.toml`",
    "  -h, --help               Print help (see more with '--help')",
    "  -V, --version            Print version",
    "",
    "Example: htest-gen hltypes ../../unittest"]

def longHelp : String :=
  text [
    "Generates unit test registration sources for C++ test files",
    "",
    "Usage: htest-gen [OPTIONS] [LIB_NAME] [SOURCE_PATH]",
    "",
    "Arguments:",
    "  [LIB_NAME]",
    "          Name of the library. When omitted, each source's namespace marker is used",
    "",
    "  [SOURCE_PATH]",
    "          Directory holding the unit test sources [default: ../../unittest]",
    "",
    "Options:",
    "      --profile <PROFILE>",
    "          Marker vocabulary to scan for and emit",
    "",
    "          Possible values:",
    "          - htest:     The `htest` framework (`HTEST_*` markers, plain `#include`)",
    "          - hunittest: The `hunittest` framework (`HL_UT_*` markers, Apple `#import` switch)",
    "",
    "      --config <path>",
    "          Configuration file to load instead of `htest-gen.toml`",
    "",
    "  -h, --help",
    "          Print help (see a summary with '-h')",
    "",
    "  -V, --version",
    "          Print version",
    "",
    "Example: htest-gen hltypes ../../unittest"]

def versionLine : String :=
  text ["htest-gen " ++ version]

def Command.notice? : Command → Option String
  | .generate _ => none
  | .shortHelp => some CommandLine.shortHelp
  | .longHelp => some CommandLine.longHelp
  | .version => some versionLine

end Registrar.CommandLine
