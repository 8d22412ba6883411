import Mathlib
import Registrar.Proofs.Config.Precedence
import Registrar.Proofs.Config.Replacements

/-! Overrides laid over each other. To apply two sets of overrides in turn is to apply one in which the
later set stands over the earlier, and layers that are merged before they are decoded give the same as
the layers decoded one by one. -/
namespace Registrar

/-- The fields of the upper overrides and, where those are absent, of the lower. -/
def Overrides.over (upper lower : Overrides) : Overrides where
  namespaceMarker := upper.namespaceMarker.or lower.namespaceMarker
  suiteMarker := upper.suiteMarker.or lower.suiteMarker
  testMarker := upper.testMarker.or lower.testMarker
  runClassBegin := upper.runClassBegin.or lower.runClassBegin
  runClassEnd := upper.runClassEnd.or lower.runClassEnd
  runMethod := upper.runMethod.or lower.runMethod
  header := upper.header.or lower.header
  headerStyle := upper.headerStyle.or lower.headerStyle
  frameworkSource := upper.frameworkSource.or lower.frameworkSource
  extension := upper.extension.or lower.extension
  outputDir := upper.outputDir.or lower.outputDir
  outputPrefix := upper.outputPrefix.or lower.outputPrefix

variable {first second : Vocabulary} {upper lower : Overrides}

namespace VocabularyKey

theorem text?_over (upper lower : Overrides) (key : VocabularyKey) :
    key.text? (upper.over lower) = (key.text? upper).or (key.text? lower) := by
  cases key with
  | headerStyle => exact Option.map_or
  | _ => rfl

/-- A vocabulary is known by the texts of its fields. -/
theorem text_ext (same : ∀ key : VocabularyKey, key.text first = key.text second) :
    first = second := by
  have style : first.headerStyle = second.headerStyle := name_injective (same .headerStyle)
  cases first
  cases second
  simp only [Vocabulary.mk.injEq]
  exact ⟨same .namespaceMarker, same .suiteMarker, same .testMarker, same .runClassBegin,
    same .runClassEnd, same .runMethod, same .header, style, same .frameworkSource, same .extension,
    same .outputDir, same .outputPrefix⟩

end VocabularyKey

namespace Vocabulary

theorem apply_over (vocabulary : Vocabulary) (upper lower : Overrides) :
    (vocabulary.apply lower).apply upper = vocabulary.apply (upper.over lower) := by
  apply VocabularyKey.text_ext
  intro key
  simp only [VocabularyKey.text_apply, VocabularyKey.text?_over]
  cases key.text? upper <;> rfl

theorem apply_empty (vocabulary : Vocabulary) : vocabulary.apply {} = vocabulary := rfl

end Vocabulary

namespace Config
open Value

variable {fs : FileSystem} {config : Option String} {file : Option Value}
  {environment : List (String × String)} {chosen : Chosen} {layer : Value} {profile : Profile}
  {upperLayer lowerLayer : Value}

/-- A layer has a table of overrides, or none, and these are what it decodes to. -/
inductive Gives (layer : Value) : Overrides → Prop
  | nothing (absent : at? [vocabularyKey] (some layer) = none) : Gives layer {}
  | table {origin : Origin} {fields : Fields} {overrides : Overrides}
      (given : at? [vocabularyKey] (some layer) = some (.table origin fields))
      (decoded : Decode.overrides [vocabularyKey] (.table origin fields) = .ok overrides) :
      Gives layer overrides

/-- Beside the vocabulary, the highest layers give what can be decoded: a scalar for each text, and
the profile by its name. -/
structure ValidBeside (downward : List Value) (profile : Profile) : Prop where
  libName : ∀ value, highest? [libNameKey] downward = some value →
    ∃ text, Decode.text [libNameKey] value = .ok text
  profile : ∃ value, highest? [profileKey] downward = some value ∧
    Decode.profile [profileKey] value = .ok profile
  sourceDir : ∃ value text, highest? [sourceDirKey] downward = some value ∧
    Decode.text [sourceDirKey] value = .ok text

theorem Gives.tabular {overrides : Overrides} (gives : Gives layer overrides) :
    Tabular (at? [vocabularyKey] (some layer)) := by
  cases gives with
  | nothing absent => rw [absent]; trivial
  | table given => rw [given]; trivial

/-- Each field of the overrides is what the layer holds for it. -/
theorem Gives.field {overrides : Overrides} (gives : Gives layer overrides) (key : VocabularyKey) :
    (at? (Key.path (.field key)) (some layer)).map key.given? = (key.text? overrides).map some := by
  change (at? [key.name] (at? [vocabularyKey] (some layer))).map key.given? = _
  cases gives with
  | nothing absent =>
    rw [absent, at?_none, Decode.text?_empty]
    rfl
  | table given decoded =>
    rw [given]
    exact Decode.overrides_of_table_iff.mp decoded key

/-- What is fit for a field is a scalar, and so replaces what lies below it. -/
theorem map_given?_overlay? {key : VocabularyKey} {above below : Option Value}
    {upper lower : Option String} (higher : above.map key.given? = upper.map some)
    (under : below.map key.given? = lower.map some) :
    (overlay? below above).map key.given? = (upper.or lower).map some := by
  cases above with
  | none =>
    cases upper with
    | none => exact under
    | some text => cases higher
  | some value =>
    cases upper with
    | none => cases higher
    | some text =>
      obtain ⟨origin, scalar, rfl⟩ := VocabularyKey.scalar_of_given? (Option.some.inj higher)
      rw [overlay?, overlay_of_plain (by simp)]
      exact higher

theorem tabular_overlay? {above below : Option Value} (higher : Tabular above)
    (under : Tabular below) : Tabular (overlay? below above) := by
  rcases above with _ | _ | _ | _
  · exact under
  · cases higher
  · cases higher
  · rcases below with _ | _ | _ | _ <;> trivial

theorem OrderedTable.tabular (table : OrderedTable layer) : Tabular (some layer) := by
  obtain ⟨origin, fields, rfl, -⟩ := table
  trivial

theorem orderedTable_of_read (read : fileLayer fs config = .ok file) :
    OrderedTable (file.getD (.table .defaults [])) := by
  have tables : ∀ layer ∈ stack file [] {}, OrderedTable layer := orderedTable_stack read
  exact tables _ (by simp [stack, beneath])

theorem orderedTable_variables (environment : List (String × String)) :
    OrderedTable (Environment.layer environment) := by
  obtain ⟨fields, same, ordered⟩ := Environment.layer_eq_table environment
  exact ⟨_, fields, same, ordered⟩

/-- What the merged layers hold for the vocabulary, as a whole or at a field: what the variables have,
over what the file has, over what the defaults have. -/
theorem at?_merged_vocabulary (read : fileLayer fs config = .ok file) (inner : List String)
    (ofFile : Open inner (at? [vocabularyKey] (some (file.getD (.table .defaults [])))))
    (ofVariables : Open inner (at? [vocabularyKey] (some (Environment.layer environment)))) :
    at? (vocabularyKey :: inner) (some (merged (stack file environment chosen))) =
      overlay? (overlay? (at? (vocabularyKey :: inner) (some defaultLayer))
        (at? (vocabularyKey :: inner) (some (file.getD (.table .defaults [])))))
        (at? (vocabularyKey :: inner) (some (Environment.layer environment))) := by
  have noField : chosen.text? (.field .header) = none := rfl
  have beside : at? (vocabularyKey :: inner) (some (merged (stack file environment chosen))) =
      at? (vocabularyKey :: inner) (some (merged (beneath file environment))) :=
    congrArg (at? inner) (at?_merged_of_absent noField)
  have layered : some (merged (beneath file environment)) =
      overlay? (overlay? (some defaultLayer) (some (file.getD (.table .defaults []))))
        (some (Environment.layer environment)) := rfl
  have lower := orderedTable_of_read read
  have upper := orderedTable_variables environment
  have openLower : Open (vocabularyKey :: inner) (some (file.getD (.table .defaults []))) :=
    ⟨lower.tabular, ofFile⟩
  have openUpper : Open (vocabularyKey :: inner) (some (Environment.layer environment)) :=
    ⟨upper.tabular, ofVariables⟩
  rw [beside, layered, at?_overlay? openUpper upper.ordered.some,
    at?_overlay? openLower lower.ordered.some]

theorem exists_table_of_overlay? {below above : Option Value} {origin : Origin} {fields : Fields}
    (under : below = some (.table origin fields)) (higher : Tabular above) :
    ∃ origin fields, overlay? below above = some (.table origin fields) := by
  subst under
  rcases above with _ | _ | _ | _
  · exact ⟨_, _, rfl⟩
  · cases higher
  · cases higher
  · exact ⟨_, _, by rw [overlay?, overlay, merge]⟩

/-- The vocabulary of the merged layers decodes to that of the variables over that of the file. -/
theorem vocabulary_of_merged (read : fileLayer fs config = .ok file) (chosen : Chosen)
    (ofFile : Gives (file.getD (.table .defaults [])) lower)
    (ofVariables : Gives (Environment.layer environment) upper) :
    ∃ origin fields, at? [vocabularyKey] (some (merged (stack file environment chosen))) =
        some (.table origin fields) ∧
      Decode.overrides [vocabularyKey] (.table origin fields) = .ok (upper.over lower) := by
  obtain ⟨origin, fields, whole⟩ : ∃ origin fields,
      at? [vocabularyKey] (some (merged (stack file environment chosen))) =
        some (.table origin fields) := by
    have under : at? [vocabularyKey] (some defaultLayer) = some (.table .defaults []) := rfl
    obtain ⟨_, _, between⟩ := exists_table_of_overlay? under ofFile.tabular
    obtain ⟨origin, fields, above⟩ := exists_table_of_overlay? between ofVariables.tabular
    exact ⟨origin, fields, (at?_merged_vocabulary read [] trivial trivial).trans above⟩
  refine ⟨origin, fields, whole, Decode.overrides_of_table_iff.mpr ?_⟩
  intro key
  have here : Fields.get? fields key.name =
      at? (Key.path (.field key)) (some (merged (stack file environment chosen))) := by
    change _ = at? [key.name] (at? [vocabularyKey] _)
    rw [whole]
    rfl
  have merges : at? (Key.path (.field key)) (some (merged (stack file environment chosen))) =
      overlay? (overlay? none (at? (Key.path (.field key)) (some (file.getD (.table .defaults [])))))
        (at? (Key.path (.field key)) (some (Environment.layer environment))) :=
    at?_merged_vocabulary read [key.name] ⟨ofFile.tabular, trivial⟩
      ⟨ofVariables.tabular, trivial⟩
  have bare : (none : Option Value).map key.given? = (none : Option String).map some := rfl
  rw [here, merges, VocabularyKey.text?_over]
  have under := map_given?_overlay? (ofFile.field key) bare
  rw [Option.or_none] at under
  exact map_given?_overlay? (ofVariables.field key) under

/-- What was merged at a key at the top, where that can be decoded, is what the highest layer gives. -/
theorem get?_merged_of_highest (read : fileLayer fs config = .ok file) {key : String}
    {found : Option Value} (noTable : ∀ origin fields, found ≠ some (.table origin fields))
    (highest : highest? [key] (stack file environment chosen).reverse = found) :
    Fields.get? (merged (stack file environment chosen)).fields key = found := by
  rw [get?_merged]
  apply (highest_iff read noTable).mpr
  rw [standing_top read]
  exact highest

theorem ne_table_of_text {path : List String} {value : Value} {text : String}
    (decoded : Decode.text path value = .ok text) (origin : Origin) (fields : Fields) :
    some value ≠ some (.table origin fields) :=
  (Decode.spells_of_text decoded).ne_table origin fields

/-- **Overrides compose.** Two sets of overrides in turn are one set over the other, and none change
nothing. Where the vocabulary of the file and that of the variables decode, each by itself, and the
other settings are valid, the merged layers load: with the overrides of the variables over those of
the file, which is to apply those of the file first. -/
theorem overrides_compose :
    (∀ (vocabulary : Vocabulary) upper lower, (vocabulary.apply lower).apply upper =
      vocabulary.apply (upper.over lower)) ∧
    (∀ upper lower (key : VocabularyKey),
      key.text? (upper.over lower) = (key.text? upper).or (key.text? lower)) ∧
    (∀ vocabulary overrides (key : VocabularyKey), key.text (vocabulary.apply overrides) =
      (key.text? overrides).getD (key.text vocabulary)) ∧
    (∀ vocabulary : Vocabulary, vocabulary.apply {} = vocabulary) ∧
    ∀ fs config file environment chosen profile lower upper,
      fileLayer fs config = .ok file →
      Gives (file.getD (.table .defaults [])) lower →
      Gives (Environment.layer environment) upper →
      ValidBeside (stack file environment chosen).reverse profile →
      ∃ settings, load fs config environment chosen = .ok settings ∧
        settings.profile = profile ∧ settings.overrides = upper.over lower ∧
        settings.vocabulary = (profile.vocabulary.apply lower).apply upper := by
  refine ⟨Vocabulary.apply_over, VocabularyKey.text?_over, VocabularyKey.text_apply,
    Vocabulary.apply_empty, ?_⟩
  intro fs config file environment chosen profile lower upper read ofFile ofVariables valid
  obtain ⟨origin, fields, whole, decoded⟩ := vocabulary_of_merged read chosen ofFile ofVariables
  have vocabulary := Decode.field?_of_some ((get?_merged _ _).trans whole) decoded
  obtain ⟨value, top, named⟩ := valid.profile
  have profiled := Decode.field?_of_some
    (get?_merged_of_highest read (Decode.spells_of_choice named).ne_table top) named
  obtain ⟨value, text, top, spelled⟩ := valid.sourceDir
  have placed := Decode.field?_of_some
    (get?_merged_of_highest read (ne_table_of_text spelled) top) spelled
  obtain ⟨libName, library⟩ : ∃ libName, Decode.field? Decode.text
      (merged (stack file environment chosen)).fields libNameKey = .ok libName := by
    cases top : highest? [libNameKey] (stack file environment chosen).reverse with
    | none => exact ⟨none, Decode.field?_of_none (get?_merged_of_highest read (by simp) top)⟩
    | some value =>
      obtain ⟨text, spelled⟩ := valid.libName value top
      exact ⟨some text, Decode.field?_of_some
        (get?_merged_of_highest read (ne_table_of_text spelled) top) spelled⟩
  refine ⟨⟨profile, text, libName, upper.over lower⟩, ?_, rfl, rfl,
    (Vocabulary.apply_over _ _ _).symm⟩
  rw [load_eq read, settled, Decode.settings_of_fields library profiled placed vocabulary]
  rfl

/-- The file and a variable both give the marker of the suite. -/
theorem settingsTree_composed : ∃ settings,
    load settingsTree none [("HTEST_GEN_VOCABULARY__SUITE_MARKER", "Y")] {} = .ok settings ∧
    settings.vocabulary = (Profile.htest.vocabulary.apply { suiteMarker := some "X" }).apply
      { suiteMarker := some "Y" } := by
  have set : Environment.layer [("HTEST_GEN_VOCABULARY__SUITE_MARKER", "Y")] =
      settingsLayer .environment "Y" := by cbv
  have gives (origin : Origin) (marker : String) :
      Gives (settingsLayer origin marker) { suiteMarker := some marker } := .table rfl (by cbv)
  have valid (origin : Origin) : ValidBeside (stack (some (settingsLayer origin "X"))
      [("HTEST_GEN_VOCABULARY__SUITE_MARKER", "Y")] {}).reverse .htest := by
    rw [stack, beneath, set]
    refine ⟨?_, ⟨.scalar .defaults (.text "htest"), by cbv, by cbv⟩,
      ⟨.scalar .defaults (.text Settings.defaultSourceDir), Settings.defaultSourceDir, by cbv, by cbv⟩⟩
    intro value given
    have nothing : highest? [libNameKey] ([defaultLayer, settingsLayer origin "X",
      settingsLayer .environment "Y"] ++ [Chosen.layer {}]).reverse = none := by cbv
    cases nothing.symm.trans given
  obtain ⟨-, -, -, -, loads⟩ := overrides_compose
  obtain ⟨settings, loaded, -, -, vocabulary⟩ := loads settingsTree none _
    [("HTEST_GEN_VOCABULARY__SUITE_MARKER", "Y")] {} .htest _ _ fileLayer_settingsTree (gives _ "X")
    (set ▸ gives .environment "Y") (valid _)
  exact ⟨settings, loaded, vocabulary⟩

end Config

end Registrar
