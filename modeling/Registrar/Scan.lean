import Registrar.Text.Blank
import Registrar.Text.Occurrence
import Registrar.Vocabulary

/-! Reading a test source. Markers are found by plain search, so one inside a comment counts too;
the argument of a marker is the rest of its line. -/
namespace Registrar

structure Extraction where
  library : String
  suite : String
  tests : List String
  deriving DecidableEq, Repr

inductive ScanError where
  | missingNamespace
  | missingSuiteDeclaration
  | blankSuiteName
  deriving DecidableEq, Repr

def ScanError.message : ScanError → String
  | missingNamespace => "no namespace defined"
  | missingSuiteDeclaration => "no suite declaration"
  | blankSuiteName => "suite declaration is blank"

structure Scanned where
  extraction : Extraction
  unnamed : Nat
  deriving DecidableEq, Repr

namespace Scan
open Text

def isWrapping (char : Char) : Bool :=
  char == '(' || char == ')' || isBlank char

def name (argument : List Char) : String :=
  String.ofList (trimWith isWrapping (line argument))

def chosenNamespace? (override : Option String) : Option String :=
  (override.map trimmed).filter (· != "")

/-- The namespace that the source declares: the rest of the line after the first namespace
marker, unless that is blank. -/
def declaredNamespace? (marker : String) (text : List Char) : Option String :=
  ((after? marker.toList text).map fun rest => String.ofList (trim (line rest))).filter (· != "")

def testNames (marker : String) (text : List Char) : List String :=
  (occurrences marker.toList text).map name

end Scan

open Scan in
/-- The override, or else the namespace the source declares; the suite after the first suite
marker; the tests after the test markers that follow it. -/
def scan (vocabulary : Vocabulary) (override : Option String) (text : List Char) :
    Except ScanError Scanned := do
  let library ← match chosenNamespace? override with
    | some library => pure library
    | none => match declaredNamespace? vocabulary.namespaceMarker text with
      | some library => pure library
      | none => throw .missingNamespace
  let some rest := Text.after? vocabulary.suiteMarker.toList text
    | throw .missingSuiteDeclaration
  let suite := name rest
  if suite == "" then throw .blankSuiteName
  let names := testNames vocabulary.testMarker rest
  return {
    extraction := { library, suite, tests := names.filter (· != "") }
    unnamed := names.countP (· == "") }

end Registrar
