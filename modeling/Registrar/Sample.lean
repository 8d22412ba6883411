import Registrar.Vocabulary

/-! Sample test sources in the style of a framework, with its own spellings of the markers. -/
namespace Registrar

structure SampleMarkers where
  namespaceMarker : String
  suiteMarker : String
  testMarker : String
  header : String
  deriving DecidableEq, Repr

namespace SampleMarkers

def htest : SampleMarkers where
  namespaceMarker := "__HTEST_LIB_NAME"
  suiteMarker := "HTEST_CLASS"
  testMarker := "HTEST_FUNCTION"
  header := "htest.h"

def hunittest : SampleMarkers where
  namespaceMarker := "__HL_UT_LIB_NAME"
  suiteMarker := "HL_UT_TEST_CLASS"
  testMarker := "HL_UT_TEST_FUNCTION"
  header := "hunittest.h"

def ofProfile : Profile → SampleMarkers
  | .htest => htest
  | .hunittest => hunittest

def testBody (markers : SampleMarkers) (test : String) : String :=
  "\t" ++ markers.testMarker ++ "(" ++ test ++ ")\n\t\x7b\n\t\t// body\n\t\x7d\n\n"

/-- A test source. Without a namespace or a suite the marker for it is left out. -/
def source (markers : SampleMarkers) (library suite : Option String) (tests : List String) :
    String :=
  let declared := library.elim "" fun name => "#define " ++ markers.namespaceMarker ++ " " ++ name ++ "\n"
  let opened := suite.elim "" fun name => markers.suiteMarker ++ "(" ++ name ++ ")\n\x7b\n"
  let closed := if suite.isSome then "\x7d\n" else ""
  declared ++ "#include \"" ++ markers.header ++ "\"\n\n" ++ opened
    ++ String.join (tests.map (testBody markers)) ++ closed

end SampleMarkers

end Registrar
