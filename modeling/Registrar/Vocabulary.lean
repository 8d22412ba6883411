/-! Vocabularies: the markers looked for in test sources, and the macro names, the header and the
file names used for the generated companions. -/
namespace Registrar

inductive HeaderStyle where
  | plainInclude
  | appleImport
  deriving DecidableEq, Repr

namespace HeaderStyle

def all : List HeaderStyle := [.plainInclude, .appleImport]

def name : HeaderStyle → String
  | plainInclude => "include"
  | appleImport => "apple_import"

def ofName? (name : String) : Option HeaderStyle :=
  all.find? (·.name == name)

end HeaderStyle

structure Vocabulary where
  namespaceMarker : String
  suiteMarker : String
  testMarker : String
  runClassBegin : String
  runClassEnd : String
  runMethod : String
  header : String
  headerStyle : HeaderStyle
  frameworkSource : String
  extension : String
  outputDir : String
  outputPrefix : String
  deriving DecidableEq, Repr

structure Overrides where
  namespaceMarker : Option String := none
  suiteMarker : Option String := none
  testMarker : Option String := none
  runClassBegin : Option String := none
  runClassEnd : Option String := none
  runMethod : Option String := none
  header : Option String := none
  headerStyle : Option HeaderStyle := none
  frameworkSource : Option String := none
  extension : Option String := none
  outputDir : Option String := none
  outputPrefix : Option String := none
  deriving DecidableEq, Repr

def Vocabulary.apply (vocabulary : Vocabulary) (overrides : Overrides) : Vocabulary where
  namespaceMarker := overrides.namespaceMarker.getD vocabulary.namespaceMarker
  suiteMarker := overrides.suiteMarker.getD vocabulary.suiteMarker
  testMarker := overrides.testMarker.getD vocabulary.testMarker
  runClassBegin := overrides.runClassBegin.getD vocabulary.runClassBegin
  runClassEnd := overrides.runClassEnd.getD vocabulary.runClassEnd
  runMethod := overrides.runMethod.getD vocabulary.runMethod
  header := overrides.header.getD vocabulary.header
  headerStyle := overrides.headerStyle.getD vocabulary.headerStyle
  frameworkSource := overrides.frameworkSource.getD vocabulary.frameworkSource
  extension := overrides.extension.getD vocabulary.extension
  outputDir := overrides.outputDir.getD vocabulary.outputDir
  outputPrefix := overrides.outputPrefix.getD vocabulary.outputPrefix

inductive Profile where
  | htest
  | hunittest
  deriving DecidableEq, Repr

namespace Profile

def all : List Profile := [htest, hunittest]

def default : Profile := htest

def name : Profile → String
  | htest => "htest"
  | hunittest => "hunittest"

def ofName? (name : String) : Option Profile :=
  all.find? (·.name == name)

def vocabulary : Profile → Vocabulary
  | htest => {
      namespaceMarker := "__HTEST_LIB_NAME"
      suiteMarker := "HTEST_CLASS"
      testMarker := "HTEST_FUNCTION"
      runClassBegin := "HTEST_RUN_CLASS_BEGIN"
      runClassEnd := "HTEST_RUN_CLASS_END"
      runMethod := "HTEST_RUN_METHOD"
      header := "htest.h"
      headerStyle := .plainInclude
      frameworkSource := "htest.cpp"
      extension := ".cpp"
      outputDir := "generated"
      outputPrefix := "_" }
  | hunittest => {
      namespaceMarker := "__HL_UT_LIB_NAME"
      suiteMarker := "HL_UT_TEST_CLASS"
      testMarker := "HL_UT_TEST_FUNCTION"
      runClassBegin := "HL_UT_RUN_CLASS_BEGIN"
      runClassEnd := "HL_UT_RUN_CLASS_END"
      runMethod := "HL_UT_RUN_METHOD"
      header := "hunittest.h"
      headerStyle := .appleImport
      frameworkSource := "hunittest.cpp"
      extension := ".cpp"
      outputDir := "generated"
      outputPrefix := "_" }

theorem ofName?_name (profile : Profile) : ofName? profile.name = some profile := by
  cases profile <;> rfl

end Profile

end Registrar
