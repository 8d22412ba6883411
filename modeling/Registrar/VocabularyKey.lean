import Registrar.Vocabulary

/-! The fields of a vocabulary by the names that settings give them. -/
namespace Registrar

inductive VocabularyKey where
  | namespaceMarker
  | suiteMarker
  | testMarker
  | runClassBegin
  | runClassEnd
  | runMethod
  | header
  | headerStyle
  | frameworkSource
  | extension
  | outputDir
  | outputPrefix
  deriving DecidableEq, Repr

namespace VocabularyKey

def all : List VocabularyKey :=
  [namespaceMarker, suiteMarker, testMarker, runClassBegin, runClassEnd, runMethod, header,
    headerStyle, frameworkSource, extension, outputDir, outputPrefix]

def byName : List VocabularyKey :=
  [extension, frameworkSource, header, headerStyle, namespaceMarker, outputDir, outputPrefix,
    runClassBegin, runClassEnd, runMethod, suiteMarker, testMarker]

def name : VocabularyKey → String
  | namespaceMarker => "namespace_marker"
  | suiteMarker => "suite_marker"
  | testMarker => "test_marker"
  | runClassBegin => "run_class_begin"
  | runClassEnd => "run_class_end"
  | runMethod => "run_method"
  | header => "header"
  | headerStyle => "header_style"
  | frameworkSource => "framework_source"
  | extension => "extension"
  | outputDir => "output_dir"
  | outputPrefix => "output_prefix"

def ofName? (name : String) : Option VocabularyKey :=
  all.find? (·.name == name)

def text (vocabulary : Vocabulary) : VocabularyKey → String
  | namespaceMarker => vocabulary.namespaceMarker
  | suiteMarker => vocabulary.suiteMarker
  | testMarker => vocabulary.testMarker
  | runClassBegin => vocabulary.runClassBegin
  | runClassEnd => vocabulary.runClassEnd
  | runMethod => vocabulary.runMethod
  | header => vocabulary.header
  | headerStyle => vocabulary.headerStyle.name
  | frameworkSource => vocabulary.frameworkSource
  | extension => vocabulary.extension
  | outputDir => vocabulary.outputDir
  | outputPrefix => vocabulary.outputPrefix

def text? (overrides : Overrides) : VocabularyKey → Option String
  | namespaceMarker => overrides.namespaceMarker
  | suiteMarker => overrides.suiteMarker
  | testMarker => overrides.testMarker
  | runClassBegin => overrides.runClassBegin
  | runClassEnd => overrides.runClassEnd
  | runMethod => overrides.runMethod
  | header => overrides.header
  | headerStyle => overrides.headerStyle.map HeaderStyle.name
  | frameworkSource => overrides.frameworkSource
  | extension => overrides.extension
  | outputDir => overrides.outputDir
  | outputPrefix => overrides.outputPrefix

theorem mem_all (key : VocabularyKey) : key ∈ all := by
  cases key <;> decide

theorem ofName?_name (key : VocabularyKey) : ofName? key.name = some key := by
  cases key <;> rfl

theorem mem_byName (key : VocabularyKey) : key ∈ byName := by
  cases key <;> decide

theorem byName_sorted : byName.Pairwise fun left right => left.name < right.name := by
  decide

theorem byName_nodup : byName.Nodup := by
  apply byName_sorted.imp
  intro left right below same
  rw [same] at below
  exact String.lt_irrefl _ below

theorem text_apply (vocabulary : Vocabulary) (overrides : Overrides) (key : VocabularyKey) :
    text (vocabulary.apply overrides) key = (text? overrides key).getD (text vocabulary key) := by
  cases key
  case headerStyle => cases style : overrides.headerStyle <;> simp [text, text?, Vocabulary.apply, style]
  all_goals rfl

end VocabularyKey

end Registrar
