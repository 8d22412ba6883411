import Registrar.Scan

/-! The text of a companion: it declares the test class with its tests, and registers each of
them. -/
namespace Registrar.Companion

def lines (texts : List String) : String :=
  texts.foldr (fun text rest => text ++ "\n" ++ rest) ""

def headerLines (vocabulary : Vocabulary) : List String :=
  let inclusion := "#include \"" ++ vocabulary.header ++ "\""
  match vocabulary.headerStyle with
  | .plainInclude => [inclusion]
  | .appleImport =>
    ["#ifdef __APPLE__", "#import \"" ++ vocabulary.header ++ "\"", "#else", inclusion, "#endif"]

def declaration (vocabulary : Vocabulary) (extraction : Extraction) : String :=
  lines (["#define " ++ vocabulary.namespaceMarker ++ " " ++ extraction.library]
    ++ headerLines vocabulary
    ++ ["", vocabulary.suiteMarker ++ "(" ++ extraction.suite ++ ")", "\x7b"]
    ++ extraction.tests.map (fun test => "\t" ++ vocabulary.testMarker ++ "(" ++ test ++ ");")
    ++ ["\x7d", ""])

def registration (vocabulary : Vocabulary) (suite : String) (tests : List String) : String :=
  lines ([vocabulary.runClassBegin ++ "(" ++ suite ++ ")"]
    ++ tests.map (fun test => "\t" ++ vocabulary.runMethod ++ "(" ++ suite ++ ", " ++ test ++ ")")
    ++ [vocabulary.runClassEnd])

def content (vocabulary : Vocabulary) (extraction : Extraction) : String :=
  declaration vocabulary extraction ++ registration vocabulary extraction.suite extraction.tests

end Registrar.Companion
