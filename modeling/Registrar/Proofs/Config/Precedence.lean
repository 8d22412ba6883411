import Mathlib
import Registrar.Config.Load
import Registrar.Proofs.Config.Decoding
import Registrar.Proofs.Config.Environment
import Registrar.Proofs.Config.Merging
import Registrar.Proofs.Config.Toml

/-! Which layer decides a setting. The command line stands above the environment, this above the
file, and the file above the defaults. -/
namespace Registrar.Config
open Value

/-- A setting: one of three that stand by themselves, or a field of the vocabulary. -/
inductive Key where
  | libName
  | profile
  | sourceDir
  | field (key : VocabularyKey)

namespace Key

/-- The first of the keys that lead to it. -/
def top : Key → String
  | libName => libNameKey
  | profile => profileKey
  | sourceDir => sourceDirKey
  | field _ => vocabularyKey

def inner : Key → List String
  | field key => [key.name]
  | _ => []

def path (key : Key) : List String :=
  key.top :: key.inner

end Key

def Settings.text? (settings : Settings) : Key → Option String
  | .libName => settings.libName
  | .profile => some settings.profile.name
  | .sourceDir => some settings.sourceDir
  | .field key => key.text? settings.overrides

def Chosen.text? (chosen : Chosen) : Key → Option String
  | .libName => chosen.libName
  | .profile => chosen.profile.map Profile.name
  | .sourceDir => chosen.sourceDir
  | .field _ => none

/-- The layers below the command line, from the weakest up. Without a file its layer is empty. -/
def beneath (file : Option Value) (environment : List (String × String)) : List Value :=
  [defaultLayer, file.getD (.table .defaults []), Environment.layer environment]

def stack (file : Option Value) (environment : List (String × String)) (chosen : Chosen) :
    List Value :=
  beneath file environment ++ [chosen.layer]

def settled (layers : List Value) : Except Registrar.Error Settings :=
  match Decode.settings (merged layers).fields with
  | .ok settings => .ok settings
  | .error fault => .error (.config (.unfit fault))

variable {fs fs' : FileSystem} {config config' : Option String} {file file' : Option Value}
  {environment environment' : List (String × String)} {chosen chosen' : Chosen}
  {settings : Settings}

theorem merged_stack (file : Option Value) (environment : List (String × String)) (chosen : Chosen) :
    merged (stack file environment chosen) = merged (layers file environment chosen) := by
  have empty (fields : Fields) : mergeFields fields [] = fields := by rw [mergeFields]
  cases file with
  | some layer => rfl
  | none =>
    simp only [stack, beneath, layers, merged, Option.getD_none, Option.toList_none,
      List.cons_append, List.nil_append, List.foldl_cons, defaultLayer, merge, empty]

theorem load_eq (read : fileLayer fs config = .ok file) :
    load fs config environment chosen = settled (stack file environment chosen) := by
  rw [settled, merged_stack]
  cases decoded : Decode.settings (merged (layers file environment chosen)).fields <;>
    simp only [load, read, settle, decoded, bind, Except.bind]

theorem fileLayer_empty : fileLayer .empty none = .ok none := by
  have located : locate .empty none = .ok none := rfl
  simp only [fileLayer, located, bind, Except.bind]
  rfl

/-- A table whose fields are all in order. -/
def OrderedTable (layer : Value) : Prop :=
  ∃ origin fields, layer = .table origin fields ∧ Fields.Ordered fields

theorem orderedTable_of_file {layer : Value} (read : fileLayer fs config = .ok (some layer)) :
    OrderedTable layer := by
  obtain ⟨located, -, read⟩ := bind_eq_ok_iff.mp read
  cases located with
  | none => cases read
  | some path =>
    obtain ⟨layer, read, same⟩ := bind_eq_ok_iff.mp read
    cases same
    unfold readFile at read
    split at read
    · cases read
    · split at read
      · rename_i found
        cases read
        obtain ⟨text, -, document⟩ := Option.bind_eq_some_iff.mp found
        obtain ⟨fields, same, ordered⟩ := Toml.ordered_of_read document
        exact ⟨_, fields, same, ordered⟩
      · cases read

theorem orderedTable_chosen (chosen : Chosen) : OrderedTable chosen.layer := by
  have first : libNameKey < profileKey := by decide
  have second : profileKey < sourceDirKey := by decide
  refine ⟨_, _, rfl, ?_⟩
  obtain ⟨profile, sourceDir, libName⟩ := chosen
  cases libName <;> cases profile <;> cases sourceDir <;>
    simp [-String.lt_iff_ltb, Fields.Ordered, Fields.Sorted, Value.Ordered.scalar, first, second,
      first.trans second]

theorem orderedTable_default : OrderedTable defaultLayer := by
  have first : profileKey < sourceDirKey := by decide
  have second : sourceDirKey < vocabularyKey := by decide
  refine ⟨_, _, rfl, ?_⟩
  simp [-String.lt_iff_ltb, Fields.Ordered, Fields.Sorted, Value.Ordered.scalar,
    Fields.ordered_nil.table, first, second, first.trans second]

theorem orderedTable_stack (read : fileLayer fs config = .ok file) :
    ∀ layer ∈ stack file environment chosen, OrderedTable layer := by
  have empty : OrderedTable (.table .defaults []) := ⟨_, _, rfl, Fields.ordered_nil⟩
  have ofFile : OrderedTable (file.getD (.table .defaults [])) := by
    cases file with
    | none => exact empty
    | some layer => exact orderedTable_of_file read
  obtain ⟨fields, same, ordered⟩ := Environment.layer_eq_table environment
  simp only [stack, beneath, List.cons_append, List.nil_append, List.forall_mem_cons]
  exact ⟨orderedTable_default, ofFile, ⟨_, fields, same, ordered⟩, orderedTable_chosen chosen, by simp⟩

theorem OrderedTable.ordered {layer : Value} (table : OrderedTable layer) : Ordered layer := by
  obtain ⟨origin, fields, rfl, ordered⟩ := table
  exact ordered.table

theorem ordered_stack (read : fileLayer fs config = .ok file) :
    ∀ layer ∈ stack file environment chosen, Ordered layer :=
  fun layer member => (orderedTable_stack read layer member).ordered

theorem ordered_downward (read : fileLayer fs config = .ok file) :
    ∀ layer ∈ (stack file environment chosen).reverse, Ordered layer :=
  fun layer member => ordered_stack read layer (List.mem_reverse.mp member)

/-- No layer bars the way to a key at the top, as each is a table. -/
theorem standing_top (read : fileLayer fs config = .ok file) (key : String) :
    standing [key] (stack file environment chosen).reverse =
      (stack file environment chosen).reverse := by
  apply List.takeWhile_eq_self_iff.mpr
  intro layer member
  obtain ⟨origin, fields, rfl, -⟩ := orderedTable_stack read layer (List.mem_reverse.mp member)
  exact decide_eq_true ⟨trivial, trivial⟩

/-- What the merged layers hold at a key at the top. -/
theorem get?_merged (layers : List Value) (key : String) :
    Fields.get? (merged layers).fields key = at? [key] (some (merged layers)) := by
  cases merged layers <;> rfl

/-- The value that decides a setting: what the highest layer gives that sets it. Below a layer whose
vocabulary is no table no layer sets any field of the vocabulary; and where the highest vocabulary is
a list, it sets the fields by their places. -/
def decisive? (key : Key) (downward : List Value) : Option Value :=
  match key, highest? [vocabularyKey] downward with
  | .field key, some (.list _ items) => items[Decode.position key]?
  | key, _ => highest? key.path (standing key.path downward)

/-- What the merged layers hold at a path, unless that is a table, is what the highest layer gives
of those that stand. -/
theorem highest_iff (read : fileLayer fs config = .ok file) {top : String} {inner : List String}
    {found : Option Value} (noTable : ∀ origin fields, found ≠ some (.table origin fields)) :
    at? (top :: inner) (some (merged (stack file environment chosen))) = found ↔
      highest? (top :: inner) (standing (top :: inner) (stack file environment chosen).reverse) =
        found := by
  rw [← at?_merged_iff (ordered_downward read) noTable, List.reverse_reverse]

theorem given_of_default (read : fileLayer fs config = .ok file) {key : String} {value : Value}
    (given : at? [key] (some defaultLayer) = some value) :
    ∃ found, at? [key] (some (merged (stack file environment chosen))) = some found := by
  cases found : at? [key] (some (merged (stack file environment chosen))) with
  | some held => exact ⟨held, rfl⟩
  | none =>
    rw [highest_iff read (by simp), standing_top read, highest?, List.findSome?_eq_none_iff] at found
    rw [found defaultLayer (by simp [stack, beneath])] at given
    cases given

theorem decoded_of_load (read : fileLayer fs config = .ok file)
    (loaded : load fs config environment chosen = .ok settings) :
    Decode.settings (merged (stack file environment chosen)).fields = .ok settings := by
  rw [load_eq read, settled] at loaded
  split at loaded
  · rename_i decoded
    cases loaded
    exact decoded
  · cases loaded

/-- The highest vocabulary of settings that were loaded is a table or a list. -/
theorem vocabulary_of_load (read : fileLayer fs config = .ok file)
    (loaded : load fs config environment chosen = .ok settings) (origin : Origin) (scalar : Scalar) :
    highest? [vocabularyKey] (stack file environment chosen).reverse ≠
      some (.scalar origin scalar) := by
  intro top
  rw [← standing_top read, ← highest_iff read (by simp), ← get?_merged] at top
  obtain ⟨-, -, -, ofVocabulary⟩ := Decode.settings_ok (decoded_of_load read loaded)
  cases ofVocabulary _ top

/-- Settings that were loaded are spelled by the layers that decide them. -/
theorem load_spells (read : fileLayer fs config = .ok file)
    (loaded : load fs config environment chosen = .ok settings) (key : Key) :
    Spells (decisive? key (stack file environment chosen).reverse) (settings.text? key) := by
  obtain ⟨ofLibName, ofProfile, ofSourceDir, ofVocabulary⟩ :=
    Decode.settings_ok (decoded_of_load read loaded)
  simp only [get?_merged] at ofLibName ofProfile ofSourceDir ofVocabulary
  have stands {text : Option String} (key : Key)
      (spells : Spells (at? key.path (some (merged (stack file environment chosen)))) text) :
      Spells (highest? key.path (standing key.path (stack file environment chosen).reverse)) text :=
    (highest_iff read spells.ne_table).mp rfl ▸ spells
  have merges (top : String) {value : Value}
      (given : at? [top] (some defaultLayer) = some value) :
      ∃ found, at? [top] (some (merged (stack file environment chosen))) = some found :=
    given_of_default read given
  cases key with
  | libName => exact stands .libName ofLibName
  | profile =>
    obtain ⟨value, given⟩ := merges profileKey rfl
    exact stands .profile (given ▸ ofProfile value given)
  | sourceDir =>
    obtain ⟨value, given⟩ := merges sourceDirKey rfl
    exact stands .sourceDir (given ▸ ofSourceDir value given)
  | field key =>
    obtain ⟨value, given⟩ := merges vocabularyKey rfl
    have done := ofVocabulary value given
    cases value with
    | scalar => cases done
    | list origin items =>
      have top := (highest_iff read (by simp)).mp given
      rw [standing_top read] at top
      unfold decisive?
      rw [top]
      exact Decode.spells_of_list done key
    | table origin fields =>
      have spells : Spells (at? (Key.path (.field key))
          (some (merged (stack file environment chosen)))) (key.text? settings.overrides) := by
        change Spells (at? [key.name] (at? [vocabularyKey] (some (merged _)))) _
        rw [given]
        exact Decode.spells_of_table done key
      unfold decisive?
      split
      · rename_i top
        rw [← standing_top read, ← highest_iff read (by simp), given] at top
        cases top
      · exact stands (.field key) spells

theorem load_of_covered {below below' above : List Value} {layer : Value} {key : Key}
    (read : fileLayer fs config = .ok file) (read' : fileLayer fs' config' = .ok file')
    (parts : stack file environment chosen = below ++ layer :: above)
    (parts' : stack file' environment' chosen' = below' ++ layer :: above)
    (apart : List.Forall₂ (fun under under' => Apart key.path (some under) (some under')) below below')
    (covers : Covers key.path layer) :
    load fs config environment chosen = load fs' config' environment' chosen' := by
  have ordered : ∀ layer ∈ stack file environment chosen, Ordered layer := ordered_stack read
  have ordered' : ∀ layer ∈ stack file' environment' chosen', Ordered layer := ordered_stack read'
  rw [parts] at ordered
  rw [parts'] at ordered'
  rw [load_eq read, load_eq read', settled, settled, parts, parts',
    merged_of_covered covers apart ordered ordered']

/-- A field that was not chosen stands nowhere in the layer of the command line. -/
theorem at?_chosen {key : Key} (absent : chosen.text? key = none) :
    at? [key.top] (some chosen.layer) = none := by
  obtain ⟨profile, sourceDir, libName⟩ := chosen
  cases key with
  | libName =>
    obtain rfl : libName = none := absent
    cases profile <;> cases sourceDir <;> rfl
  | profile =>
    obtain rfl : profile = none := Option.map_eq_none_iff.mp absent
    cases libName <;> cases sourceDir <;> rfl
  | sourceDir =>
    obtain rfl : sourceDir = none := absent
    cases libName <;> cases profile <;> rfl
  | field => cases libName <;> cases profile <;> cases sourceDir <;> rfl

theorem at?_merged_stack (file : Option Value) (environment : List (String × String))
    (chosen : Chosen) (key : String) :
    at? [key] (some (merged (stack file environment chosen))) =
      overlay? (at? [key] (some (merged (beneath file environment))))
        (at? [key] (some chosen.layer)) := by
  have opened : Open [key] (some chosen.layer) := ⟨trivial, trivial⟩
  have step : some (merged (stack file environment chosen)) =
      overlay? (some (merged (beneath file environment))) (some chosen.layer) := by
    rw [stack, merged, List.foldl_append]
    rfl
  rw [step, at?_overlay? opened (orderedTable_chosen chosen).ordered.some]

theorem at?_merged_of_absent {key : Key} (absent : chosen.text? key = none) :
    at? [key.top] (some (merged (stack file environment chosen))) =
      at? [key.top] (some (merged (beneath file environment))) := by
  rw [at?_merged_stack, at?_chosen absent]
  rfl

theorem load_of_none_chosen (read : fileLayer fs config = .ok file) :
    load fs config environment {} = settled (beneath file environment) := by
  have same : (merged (stack file environment {})).fields =
      (merged (beneath file environment)).fields := by
    rw [stack, merged, List.foldl_append]
    change (Value.merge (merged (beneath file environment)) (.table .commandLine [])).fields = _
    cases merged (beneath file environment) <;> simp only [merge, mergeFields, Value.fields]
  rw [load_eq read, settled, settled, same]

/-- Without a choice the layers beneath decide alone. -/
theorem decisive?_of_absent {key : Key} (absent : chosen.text? key = none) :
    decisive? key (stack file environment chosen).reverse =
      decisive? key (beneath file environment).reverse := by
  have here : at? [key.top] (some chosen.layer) = none := at?_chosen absent
  have nothing : at? key.path (some chosen.layer) = none := by
    change at? key.inner (at? [key.top] (some chosen.layer)) = none
    rw [here, at?_none]
  have opened : Open key.path (some chosen.layer) := by
    refine ⟨trivial, ?_⟩
    change Open key.inner (at? [key.top] (some chosen.layer))
    rw [here]
    exact open_none _
  have noVocabulary : at? [vocabularyKey] (some chosen.layer) = none := by
    have noField : chosen.text? (.field .header) = none := rfl
    exact at?_chosen noField
  have stands : highest? key.path (standing key.path (stack file environment chosen).reverse) =
      highest? key.path (standing key.path (beneath file environment).reverse) := by
    rw [stack, List.reverse_append, standing, List.reverse_singleton, List.singleton_append,
      List.takeWhile_cons_of_pos (by simpa using opened), highest?, List.findSome?_cons, nothing]
    rfl
  have top : highest? [vocabularyKey] (stack file environment chosen).reverse =
      highest? [vocabularyKey] (beneath file environment).reverse := by
    rw [stack, List.reverse_append, List.reverse_singleton, List.singleton_append, highest?,
      List.findSome?_cons, noVocabulary]
    rfl
  unfold decisive?
  rw [top]
  split
  · rfl
  · exact stands

/-- Where every layer has tables only on the way to a key, the highest layer that gives it decides. -/
theorem decisive?_of_open {key : Key} {downward : List Value}
    (opened : ∀ layer ∈ downward, Open key.path (some layer)) :
    decisive? key downward = highest? key.path downward := by
  have stands : standing key.path downward = downward :=
    List.takeWhile_eq_self_iff.mpr fun layer member => decide_eq_true (opened layer member)
  unfold decisive?
  split
  · rename_i key origin items top
    obtain ⟨layer, member, given⟩ := List.exists_of_findSome?_eq_some top
    have tabular := (opened layer member).2.1
    change Tabular (at? [vocabularyKey] (some layer)) at tabular
    rw [given] at tabular
    cases tabular
  · rw [stands]

/-- How the layers of a load decide its result. -/
structure Layered (fs : FileSystem) (config : Option String) (environment : List (String × String))
    (chosen : Chosen) (file : Option Value) : Prop where
  settles : load fs config environment chosen = settled (stack file environment chosen)
  /-- Where a layer gives a setting as a plain value, the layers below may hold there what they like:
  the result is the same, be it settings or an error. -/
  hidden : ∀ fs' config' environment' chosen' file' below below' layer above (key : Key),
    fileLayer fs' config' = .ok file' →
    stack file environment chosen = below ++ layer :: above →
    stack file' environment' chosen' = below' ++ layer :: above →
    List.Forall₂ (fun under under' => Apart key.path (some under) (some under')) below below' →
    Covers key.path layer →
    load fs config environment chosen = load fs' config' environment' chosen'
  /-- Where the command line has no value for a setting, it is merged as if from the layers
  beneath. -/
  absent : ∀ key : Key, chosen.text? key = none →
    at? [key.top] (some (merged (stack file environment chosen))) =
      at? [key.top] (some (merged (beneath file environment)))
  bare : load fs config environment {} = settled (beneath file environment)
  /-- What was loaded is spelled by the layers that decide it; by those beneath the command line, if
  that has no value; by the highest layer that has one, if no layer gives the vocabulary a value that
  is no table. -/
  decided : ∀ settings, load fs config environment chosen = .ok settings → ∀ key,
    Spells (decisive? key (stack file environment chosen).reverse) (settings.text? key) ∧
    (chosen.text? key = none →
      Spells (decisive? key (beneath file environment).reverse) (settings.text? key)) ∧
    ((∀ layer ∈ stack file environment chosen, Open key.path (some layer)) →
      Spells (highest? key.path (stack file environment chosen).reverse) (settings.text? key))
  vocabulary : ∀ settings, load fs config environment chosen = .ok settings → ∀ origin scalar,
    highest? [vocabularyKey] (stack file environment chosen).reverse ≠ some (.scalar origin scalar)

/-- **The highest layer decides.** For any settings file that can be read, any variables and any
choices, a setting is decided by the highest layer that gives it, and what lies below is not seen.
The fields of the vocabulary are decided so as long as it is a table: a layer that gives the
vocabulary something else takes away what the layers below it give for its fields. -/
theorem load_layered (read : fileLayer fs config = .ok file)
    (environment : List (String × String)) (chosen : Chosen) :
    Layered fs config environment chosen file := by
  constructor
  · exact load_eq read
  · intro fs' config' environment' chosen' file' below below' layer above key read' parts parts' apart
      covers
    exact load_of_covered read read' parts parts' apart covers
  · intro key absent
    exact at?_merged_of_absent absent
  · exact load_of_none_chosen read
  · intro settings loaded key
    have spells := load_spells read loaded key
    refine ⟨spells, ?_, ?_⟩
    · intro absent
      rwa [decisive?_of_absent absent] at spells
    · intro opened
      rwa [decisive?_of_open fun layer member => opened layer (List.mem_reverse.mp member)] at spells
  · intro settings loaded origin scalar
    exact vocabulary_of_load read loaded origin scalar

/-- A settings file that gives a marker. -/
def settingsTree : FileSystem :=
  FileSystem.empty.setFile [Utf8.bytes fileName] (Utf8.bytes "[vocabulary]\nsuite_marker = \"X\"\n")

def settingsLayer (origin : Origin) (marker : String) : Value :=
  .table origin [(vocabularyKey, .table origin
    [(VocabularyKey.suiteMarker.name, .scalar origin (.text marker))])]

theorem fileLayer_settingsTree : fileLayer settingsTree none =
    .ok (some (settingsLayer (.file (shownPath fileName)) "X")) := by
  let text := "[vocabulary]\nsuite_marker = \"X\"\n"
  have located : locate settingsTree none = .ok (some fileName) := by cbv
  have bytes : settingsTree.readFile .anywhere (Utf8.bytes fileName) = .ok (Utf8.bytes text) := by
    cbv
  have decoded : Utf8.decode? (Utf8.bytes text) = some text.toList := by cbv
  have document (origin : Origin) :
      Toml.read origin text.toList = some (settingsLayer origin "X") := by cbv
  simp only [fileLayer, located, readFile, bytes, decoded, document, bind, Except.bind, Option.bind]
  rfl

/-- The variable hides the marker that the file gives. -/
theorem settingsTree_layered :
    load settingsTree none [("HTEST_GEN_VOCABULARY__SUITE_MARKER", "Y")] {} =
      load .empty none [("HTEST_GEN_VOCABULARY__SUITE_MARKER", "Y")] {} := by
  have set : Environment.layer [("HTEST_GEN_VOCABULARY__SUITE_MARKER", "Y")] =
      settingsLayer .environment "Y" := by cbv
  have noFile : fileLayer .empty none = .ok none := by
    have located : locate .empty none = .ok none := rfl
    simp only [fileLayer, located, bind, Except.bind]
    rfl
  have apart (origin : Origin) : Apart (Key.path (.field .suiteMarker))
      (some (settingsLayer origin "X")) (some (.table .defaults [])) := by
    refine .within trivial trivial ?_ (.within trivial trivial ?_ .here)
    · intro other different
      exact (Fields.get?_cons _ _ _ _).trans (if_neg different)
    · intro other different
      exact (Fields.get?_cons _ _ _ _).trans (if_neg different)
  apply (load_layered fileLayer_settingsTree _ _).hidden .empty none _ _ none
    [defaultLayer, settingsLayer _ "X"] [defaultLayer, .table .defaults []]
    (settingsLayer .environment "Y") [Chosen.layer {}] (.field .suiteMarker) noFile
  · rw [stack, beneath, set]
    rfl
  · rw [stack, beneath, set]
    rfl
  · exact .cons .same (.cons (apart _) .nil)
  · exact .within rfl (.within rfl (.plain (by simp)))

/-- An empty list in the place of the vocabulary takes away what the file gives, and gives nothing. -/
theorem highest_not_always_spelled : ¬ ∀ (fs : FileSystem) (config : Option String)
    (environment : List (String × String)) (chosen : Chosen) (file : Option Value)
    (settings : Settings) (key : Key), fileLayer fs config = .ok file →
    load fs config environment chosen = .ok settings →
    Spells (highest? key.path (stack file environment chosen).reverse) (settings.text? key) := by
  intro spelled
  have set : Environment.layer [("HTEST_GEN_VOCABULARY", "[]")] =
      .table .environment [(vocabularyKey, .list .environment [])] := by cbv
  have decoded (origin : Origin) : Decode.settings (merged [defaultLayer, settingsLayer origin "X",
      .table .environment [(vocabularyKey, .list .environment [])], Chosen.layer {}]).fields =
      .ok ⟨.htest, Settings.defaultSourceDir, none, {}⟩ := by cbv
  have loaded : load settingsTree none [("HTEST_GEN_VOCABULARY", "[]")] {} =
      .ok ⟨.htest, Settings.defaultSourceDir, none, {}⟩ := by
    rw [load_eq fileLayer_settingsTree, settled, stack, beneath, set]
    simp only [Option.getD_some, List.cons_append, List.nil_append, decoded]
  have spells := spelled _ _ _ _ _ _ (.field .suiteMarker) fileLayer_settingsTree loaded
  rw [stack, beneath, set] at spells
  cases spells

end Registrar.Config
