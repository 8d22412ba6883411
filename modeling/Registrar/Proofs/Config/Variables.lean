import Mathlib
import Registrar.Proofs.Config.Composition
import Registrar.Proofs.Config.Spelling

/-! Settings that are given by variables alone. Each variable that names a text setting gives it the
spelling of its text, and a word stays the text it is exactly where it is kept. -/
namespace Registrar.Config
open Value Decimal

variable {fs : FileSystem} {config : Option String} {environment : List (String × String)}
  {key other : Key} {given : List (Key × String)} {texts : Key → Option String}

/-! ### Variables by the settings they name -/

/-- A setting that any text is fit for: neither the profile nor the style of the header. -/
def Key.Textual : Key → Prop
  | .profile | .field .headerStyle => False
  | _ => True

/-- The variable that names a setting: the keys that lead to it in capitals, joined. -/
def Key.variableName (key : Key) : String :=
  variableStart ++ String.ofList ((String.intercalate "__" key.path).toList.map Char.toUpper)

theorem keys?_variableName (key : Key) : Environment.keys? key.variableName = some key.path := by
  cases key with
  | field key => cases key <;> decide +kernel
  | _ => decide +kernel

def environmentOf (given : List (Key × String)) : List (String × String) :=
  given.map fun (key, text) => (key.variableName, text)

theorem layer_append (environment : List (String × String)) (key : Key) (text : String) :
    Environment.layer (environment ++ [(key.variableName, text)]) =
      (Environment.layer environment).merge
        (Value.nested .environment (Environment.read text) key.path) := by
  rw [Environment.layer, List.foldl_append]
  simp only [List.foldl_cons, List.foldl_nil, keys?_variableName]
  rfl

theorem at?_nested (origin : Origin) (value : Value) (path : List String) :
    at? path (some (Value.nested origin value path)) = some value ∧
      Open path (some (Value.nested origin value path)) := by
  induction path with
  | nil => exact ⟨rfl, trivial⟩
  | cons key path ih =>
    have inside : Fields.get? [(key, Value.nested origin value path)] key =
        some (Value.nested origin value path) :=
      (Fields.get?_cons [] key key _).trans (if_pos rfl)
    rw [Value.nested, at?, Open, held, inside]
    exact ⟨ih.1, trivial, ih.2⟩

theorem beside_single (origin : Origin) (value : Value) {name top : String} (path : List String)
    (different : name ≠ top) :
    at? (name :: path) (some (.table origin [(top, value)])) = none ∧
      Open (name :: path) (some (.table origin [(top, value)])) := by
  have absent : Fields.get? [(top, value)] name = none :=
    (Fields.get?_cons [] top name value).trans (if_neg different)
  constructor
  · rw [at?, held, absent]
    exact at?_none path
  · refine ⟨trivial, ?_⟩
    rw [held, absent]
    exact open_none path

/-- What is set at one setting is not set at another, and nothing bars the way to that. -/
theorem beside_nested (origin : Origin) (value : Value) (different : other ≠ key) :
    at? other.path (some (Value.nested origin value key.path)) = none ∧
      Open other.path (some (Value.nested origin value key.path)) := by
  by_cases top : other.top = key.top
  · obtain ⟨first, last, rfl, rfl⟩ : ∃ first last, other = .field first ∧ key = .field last := by
      cases other <;> cases key <;> first
        | exact ⟨_, _, rfl, rfl⟩
        | exact absurd rfl different
        | exact absurd top (by simp only [Key.top]; decide)
    have names : first.name ≠ last.name := by
      intro same
      have found := VocabularyKey.ofName?_name first
      rw [same, VocabularyKey.ofName?_name] at found
      exact different (congrArg Key.field (Option.some.inj found).symm)
    obtain ⟨absent, opened⟩ := beside_single origin value [] names
    have inside : Fields.get? (held (some (Value.nested origin value (Key.field last).path)))
        vocabularyKey = some (.table origin [(last.name, value)]) := rfl
    constructor
    · change at? [first.name] (Fields.get? _ vocabularyKey) = none
      rw [inside]
      exact absent
    · refine ⟨trivial, ?_⟩
      change Open [first.name] (Fields.get? _ vocabularyKey)
      rw [inside]
      exact opened
  · exact beside_single origin (Value.nested origin value key.inner) other.inner top

theorem ordered_nested_read (text : String) (path : List String) :
    ∀ value ∈ some (Value.nested .environment (Environment.read text) path), Ordered value :=
  (Environment.ordered_nested (Environment.ordered_read text) path).some

/-- One more variable is put over what the variables before it gave. -/
theorem layer_environmentOf_append (given : List (Key × String)) (key : Key) (text : String) :
    some (Environment.layer (environmentOf (given ++ [(key, text)]))) =
      overlay? (some (Environment.layer (environmentOf given)))
        (some (Value.nested .environment (Environment.read text) key.path)) := by
  rw [environmentOf, List.map_append]
  exact congrArg some (layer_append _ key text)

theorem open_overlay? {path : List String} {lower later : Option Value} (under : Open path lower)
    (higher : Open path later) (ordered : ∀ value ∈ later, Ordered value) :
    Open path (overlay? lower later) := by
  induction path generalizing lower later with
  | nil => trivial
  | cons key path ih =>
    refine ⟨tabular_overlay? higher.1 under.1, ?_⟩
    rw [get?_held_overlay? higher.1 ordered]
    exact ih under.2 higher.2 (ordered_get? ordered key)

/-- Variables that name settings leave the way to every setting open. -/
theorem open_environmentOf (given : List (Key × String)) (key : Key) :
    Open key.path (some (Environment.layer (environmentOf given))) := by
  induction given using List.reverseRecOn with
  | nil => exact ⟨trivial, open_none key.inner⟩
  | append_singleton given last ih =>
    obtain ⟨named, text⟩ := last
    have opened : Open key.path
        (some (Value.nested .environment (Environment.read text) named.path)) := by
      by_cases same : key = named
      · subst same
        exact (at?_nested _ _ _).2
      · exact (beside_nested _ _ same).2
    rw [layer_environmentOf_append]
    exact open_overlay? ih opened (ordered_nested_read text named.path)

/-- What variables give a setting, where no setting is named twice. -/
theorem at?_environmentOf (distinct : (given.map Prod.fst).Nodup) :
    (∀ key text, (key, text) ∈ given →
      at? key.path (some (Environment.layer (environmentOf given))) = some (Environment.read text)) ∧
    ∀ key, key ∉ given.map Prod.fst →
      at? key.path (some (Environment.layer (environmentOf given))) = none := by
  induction given using List.reverseRecOn with
  | nil =>
    refine ⟨by simp, ?_⟩
    intro key _
    exact at?_none key.inner
  | append_singleton given last ih =>
    obtain ⟨named, text⟩ := last
    rw [List.map_append, List.map_singleton, List.nodup_append_comm, List.singleton_append,
      List.nodup_cons] at distinct
    obtain ⟨fresh, distinct⟩ := distinct
    obtain ⟨set, unset⟩ := ih distinct
    have ordered := ordered_nested_read text named.path
    -- Nothing was given for the setting before, so that even a table would not be merged with it.
    have here : at? named.path (some (Environment.layer (environmentOf (given ++ [(named, text)])))) =
        some (Environment.read text) := by
      obtain ⟨inside, opened⟩ := at?_nested .environment (Environment.read text) named.path
      rw [layer_environmentOf_append, at?_overlay? opened ordered, inside, unset named fresh]
      rfl
    have beside {key : Key} (different : key ≠ named) :
        at? key.path (some (Environment.layer (environmentOf (given ++ [(named, text)])))) =
          at? key.path (some (Environment.layer (environmentOf given))) := by
      obtain ⟨absent, opened⟩ := beside_nested .environment (Environment.read text) different
      rw [layer_environmentOf_append, at?_overlay? opened ordered, absent]
      rfl
    constructor
    · intro key text' member
      rcases List.mem_append.mp member with earlier | last
      · have different : key ≠ named := by
          rintro rfl
          exact fresh (List.mem_map.mpr ⟨_, earlier, rfl⟩)
        rw [beside different, set key text' earlier]
      · obtain ⟨rfl, rfl⟩ : key = named ∧ text' = text := by simpa using last
        exact here
    · intro key absent
      rw [List.map_append, List.mem_append, not_or] at absent
      rw [beside (by simpa using absent.2), unset key absent.1]

/-! ### Loading without a file and choices -/

/-- Replacements by their texts, without one for the style of the header. -/
def overridesOf (texts : VocabularyKey → Option String) : Overrides where
  namespaceMarker := texts .namespaceMarker
  suiteMarker := texts .suiteMarker
  testMarker := texts .testMarker
  runClassBegin := texts .runClassBegin
  runClassEnd := texts .runClassEnd
  runMethod := texts .runMethod
  header := texts .header
  frameworkSource := texts .frameworkSource
  extension := texts .extension
  outputDir := texts .outputDir
  outputPrefix := texts .outputPrefix

theorem text?_overridesOf {texts : VocabularyKey → Option String} (bare : texts .headerStyle = none)
    (key : VocabularyKey) : key.text? (overridesOf texts) = texts key := by
  cases key with
  | headerStyle => exact bare.symm
  | _ => rfl

/-- The settings where nothing is given. -/
def Settings.initial : Settings := ⟨.default, Settings.defaultSourceDir, none, {}⟩

/-- What the layers hold at the top where only the variables give anything. -/
theorem highest?_of_variables (environment : List (String × String)) (key : String) :
    highest? [key] (stack none environment {}).reverse =
      (at? [key] (some (Environment.layer environment))).or (at? [key] (some defaultLayer)) := by
  have bare : at? [key] (some (Chosen.layer {})) = none := rfl
  have empty : at? [key] (some (.table .defaults [])) = none := rfl
  simp only [highest?, stack, beneath, List.reverse_cons, List.reverse_nil,
    List.nil_append, List.cons_append, List.findSome?_cons, bare, empty, Option.getD_none,
    List.findSome?_nil]
  cases at? [key] (some (Environment.layer environment)) with
  | none => cases at? [key] (some defaultLayer) <;> rfl
  | some value => rfl

/-- A text is decoded where the highest layer spells it. -/
theorem field?_of_spells {file : Option Value} {chosen : Chosen} {name : String}
    {text : Option String} (read : fileLayer fs config = .ok file)
    (spells : Spells (highest? [name] (stack file environment chosen).reverse) text) :
    Decode.field? Decode.text (merged (stack file environment chosen)).fields name = .ok text := by
  have held := get?_merged_of_highest read spells.ne_table rfl
  generalize highest? [name] (stack file environment chosen).reverse = top at spells held
  cases spells with
  | absent => exact Decode.field?_of_none held
  | scalar => exact Decode.field?_of_some held rfl

theorem gives_of_texts
    (tabular : Tabular (at? [vocabularyKey] (some (Environment.layer environment))))
    (spelled : ∀ key : Key, Spells (at? key.path (some (Environment.layer environment))) (texts key))
    (noStyle : texts (.field .headerStyle) = none) :
    Gives (Environment.layer environment) (overridesOf fun key => texts (.field key)) := by
  have shown (key : VocabularyKey) :
      key.text? (overridesOf fun key => texts (.field key)) = texts (.field key) :=
    text?_overridesOf noStyle key
  cases whole : at? [vocabularyKey] (some (Environment.layer environment)) with
  | none =>
    have bare : overridesOf (fun key => texts (.field key)) = {} := by
      apply VocabularyKey.text?_ext
      intro key
      have spells := spelled (.field key)
      change Spells (at? [key.name] (at? [vocabularyKey] _)) _ at spells
      rw [whole, at?_none] at spells
      rw [shown, Decode.text?_empty]
      generalize texts (.field key) = text at spells
      cases spells
      rfl
    rw [bare]
    exact .nothing whole
  | some value =>
    rw [whole] at tabular
    rcases value with _ | _ | ⟨origin, fields⟩
    · cases tabular
    · cases tabular
    · refine .table whole (Decode.overrides_of_table_iff.mpr ?_)
      intro key
      have spells := spelled (.field key)
      change Spells (at? [key.name] (at? [vocabularyKey] _)) _ at spells
      rw [whole] at spells
      change Spells (Fields.get? fields key.name) _ at spells
      rw [shown]
      generalize Fields.get? fields key.name = found at spells ⊢
      generalize same : texts (.field key) = text at spells ⊢
      cases spells with
      | absent => rfl
      | scalar =>
        cases key with
        | headerStyle => cases noStyle.symm.trans same
        | _ => rfl

/-- Variables that give texts load, and each setting is the text that was given for it or else what it
is without. -/
theorem load_of_texts (noFile : fileLayer fs config = .ok none)
    (tabular : Tabular (at? [vocabularyKey] (some (Environment.layer environment))))
    (spelled : ∀ key : Key, Spells (at? key.path (some (Environment.layer environment))) (texts key))
    (noProfile : texts .profile = none) (noStyle : texts (.field .headerStyle) = none) :
    ∃ settings, load fs config environment {} = .ok settings ∧
      ∀ key, settings.text? key = (texts key).or (Settings.initial.text? key) := by
  obtain ⟨origin, fields, whole, decoded⟩ := vocabulary_of_merged noFile {} (.nothing rfl)
    (gives_of_texts tabular spelled noStyle)
  have vocabulary := Decode.field?_of_some ((get?_merged _ _).trans whole) decoded
  have library : Spells (highest? [libNameKey] (stack none environment {}).reverse)
      (texts .libName) := by
    rw [highest?_of_variables]
    exact (Option.or_none).symm ▸ spelled .libName
  have place : Spells (highest? [sourceDirKey] (stack none environment {}).reverse)
      (some ((texts .sourceDir).getD Settings.defaultSourceDir)) := by
    rw [highest?_of_variables]
    have spells : Spells (at? [sourceDirKey] (some (Environment.layer environment)))
        (texts .sourceDir) := spelled .sourceDir
    generalize at? [sourceDirKey] (some (Environment.layer environment)) = found at spells ⊢
    generalize texts .sourceDir = text at spells ⊢
    cases spells with
    | absent => exact .scalar
    | scalar => exact .scalar
  have profile : Decode.field? Decode.profile (merged (stack none environment {})).fields profileKey =
      .ok (some .default) := by
    have spells : Spells (at? [profileKey] (some (Environment.layer environment))) (texts .profile) :=
      spelled .profile
    have top := highest?_of_variables environment profileKey
    rw [noProfile] at spells
    generalize at? [profileKey] (some (Environment.layer environment)) = found at spells top
    cases spells
    exact Decode.field?_of_some (get?_merged_of_highest noFile (by simp) top) rfl
  have loaded : load fs config environment {} = .ok ⟨.default,
      (texts .sourceDir).getD Settings.defaultSourceDir, texts .libName,
      (overridesOf fun key => texts (.field key)).over {}⟩ := by
    rw [load_eq noFile, settled, Decode.settings_of_fields (field?_of_spells noFile library) profile
      (field?_of_spells noFile place) vocabulary]
    rfl
  refine ⟨_, loaded, ?_⟩
  intro key
  cases key with
  | libName => exact Option.or_none.symm
  | profile =>
    rw [noProfile]
    rfl
  | sourceDir =>
    change some ((texts .sourceDir).getD Settings.defaultSourceDir) =
      (texts .sourceDir).or (some Settings.defaultSourceDir)
    cases texts .sourceDir <;> rfl
  | field key =>
    change key.text? (Overrides.over _ {}) = (texts (.field key)).or (key.text? {})
    rw [VocabularyKey.text?_over, text?_overridesOf noStyle]

/-- Words load, each as its spelling. -/
theorem load_of_words (noFile : fileLayer fs config = .ok none)
    (distinct : (given.map Prod.fst).Nodup) (textual : ∀ key ∈ given.map Prod.fst, key.Textual)
    (words : ∀ text ∈ given.map Prod.snd, Word text) :
    ∃ settings, load fs config (environmentOf given) {} = .ok settings ∧
      (∀ key text, (key, text) ∈ given →
        ∃ spelled, settings.text? key = some spelled ∧ Spelling text.toList spelled) ∧
      ∀ key, key ∉ given.map Prod.fst → settings.text? key = Settings.initial.text? key := by
  obtain ⟨set, unset⟩ := at?_environmentOf distinct
  have spells (key : Key) : ∃ text,
      Spells (at? key.path (some (Environment.layer (environmentOf given)))) text := by
    by_cases named : key ∈ given.map Prod.fst
    · obtain ⟨⟨_, text⟩, member, rfl⟩ := List.mem_map.mp named
      obtain ⟨scalar, read, -⟩ := read_word (words text (List.mem_map.mpr ⟨_, member, rfl⟩))
      rw [set _ text member, read]
      exact ⟨_, .scalar⟩
    · rw [unset key named]
      exact ⟨_, .absent⟩
  choose texts spelled using spells
  have nothing {key : Key} (absent : key ∉ given.map Prod.fst) : texts key = none := by
    have spells := spelled key
    rw [unset key absent] at spells
    generalize texts key = text at spells
    cases spells
    rfl
  have tabular : Tabular (at? [vocabularyKey] (some (Environment.layer (environmentOf given)))) :=
    (open_environmentOf given (.field .header)).2.1
  obtain ⟨settings, loaded, each⟩ := load_of_texts noFile tabular spelled
    (nothing fun named => textual _ named) (nothing fun named => textual _ named)
  refine ⟨settings, loaded, ?_, ?_⟩
  · intro key text member
    obtain ⟨scalar, read, spelling⟩ := read_word (words text (List.mem_map.mpr ⟨_, member, rfl⟩))
    have spells := spelled key
    rw [set key text member, read] at spells
    refine ⟨scalar.plain, ?_, spelling⟩
    rw [each]
    generalize texts key = shown at spells ⊢
    cases spells
    rfl
  · intro key absent
    rw [each, nothing absent, Option.none_or]

/-- **Words are spelled, and kept exactly where they are no number or written as one.** Without a
file and choices, words in variables for text settings load. Each setting is the spelling of its word,
which is the word itself exactly where that is kept, and so for every decimal with few digits; the
other settings are what they are without variables. -/
theorem words_kept (noFile : fileLayer fs config = .ok none)
    (distinct : (given.map Prod.fst).Nodup) (textual : ∀ key ∈ given.map Prod.fst, key.Textual)
    (words : ∀ text ∈ given.map Prod.snd, Word text) :
    ∃ settings, load fs config (environmentOf given) {} = .ok settings ∧
      (∀ key text, (key, text) ∈ given →
        ∃ spelled, settings.text? key = some spelled ∧ Spelling text.toList spelled ∧
          (spelled = text ↔ Kept text.toList) ∧ (ShortNumeral text.toList → spelled = text)) ∧
      ∀ key, key ∉ given.map Prod.fst → settings.text? key = Settings.initial.text? key := by
  obtain ⟨settings, loaded, each, others⟩ := load_of_words noFile distinct textual words
  refine ⟨settings, loaded, ?_, others⟩
  intro key text member
  obtain ⟨spelled, shown, spelling⟩ := each key text member
  have kept := spelling.kept_iff
  rw [String.ofList_toList] at kept
  exact ⟨spelled, shown, spelling, kept, fun numeral => kept.mpr (kept_of_shortNumeral numeral)⟩

theorem environmentOf_texts (library place : String) :
    environmentOf [(.libName, library), (.sourceDir, place)] =
      [("HTEST_GEN_LIB_NAME", library), ("HTEST_GEN_SOURCE_DIR", place)] := by
  have first : Key.libName.variableName = "HTEST_GEN_LIB_NAME" := by cbv
  have second : Key.sourceDir.variableName = "HTEST_GEN_SOURCE_DIR" := by cbv
  simp only [environmentOf, List.map_cons, List.map_nil, first, second]

/-- A year stays the library, and a decimal the source directory. -/
theorem year_kept : ∃ settings, load .empty none
      [("HTEST_GEN_LIB_NAME", "2024"), ("HTEST_GEN_SOURCE_DIR", "1.25")] {} = .ok settings ∧
    settings.libName = some "2024" ∧ settings.sourceDir = "1.25" := by
  have year : "2024".toList = ['2', '0', '2', '4'] := by cbv
  have part : "1.25".toList = ['1', '.', '2', '5'] := by cbv
  have distinct : ([(Key.libName, "2024"), (Key.sourceDir, "1.25")].map Prod.fst).Nodup := by simp
  have textual : ∀ key ∈ [(Key.libName, "2024"), (Key.sourceDir, "1.25")].map Prod.fst, key.Textual := by
    simp [Key.Textual]
  have words : ∀ text ∈ [(Key.libName, "2024"), (Key.sourceDir, "1.25")].map Prod.snd, Word text := by
    simp [Word, year, part, isWordChar]
  obtain ⟨settings, loaded, each, -⟩ := words_kept fileLayer_empty distinct textual words
  obtain ⟨library, named, -, kept, -⟩ := each .libName "2024" (by simp)
  obtain ⟨place, placed, -, -, short⟩ := each .sourceDir "1.25" (by simp)
  have whole : Kept "2024".toList := by
    rw [year]
    exact .whole (.plain ⟨by decide, by decide, by decide⟩)
  have decimal : ShortNumeral "1.25".toList := by
    rw [part]
    have tidy : Tidy ['1'] := ⟨by decide, by decide, by decide⟩
    have places : Digits ['2', '5'] := by decide
    have numeral (negative : Bool) : ShortNumeral (signed negative (['1'] ++ '.' :: ['2', '5'])) :=
      .intro tidy places (by decide) (by decide) (by decide) (by decide)
    exact numeral false
  refine ⟨settings, environmentOf_texts _ _ ▸ loaded, ?_, ?_⟩
  · rw [kept.mpr whole] at named
    exact named
  · rw [short decimal] at placed
    exact Option.some.inj placed

theorem words_not_always_kept : ¬ ∀ (fs : FileSystem) (config : Option String) (text : String),
    fileLayer fs config = .ok none → text ≠ "" → Word text →
    ∃ settings, load fs config
        [("HTEST_GEN_LIB_NAME", text), ("HTEST_GEN_SOURCE_DIR", text)] {} = .ok settings ∧
      settings.libName = some text ∧ settings.sourceDir = text := by
  intro always
  have padded : "007".toList = ['0', '0', '7'] := by cbv
  have word : Word "007" := by
    rw [Word, padded]
    simp [isWordChar]
  have words : ∀ text ∈ [(Key.libName, "007"), (Key.sourceDir, "007")].map Prod.snd, Word text := by
    simpa using word
  have distinct : ([(Key.libName, "007"), (Key.sourceDir, "007")].map Prod.fst).Nodup := by simp
  have textual : ∀ key ∈ [(Key.libName, "007"), (Key.sourceDir, "007")].map Prod.fst, key.Textual := by
    simp [Key.Textual]
  obtain ⟨settings, loaded, named, -⟩ := always .empty none "007" fileLayer_empty (by decide) word
  obtain ⟨others, loaded', each, -⟩ := load_of_words fileLayer_empty distinct textual words
  rw [environmentOf_texts, loaded] at loaded'
  cases loaded'
  obtain ⟨spelled, shown, spelling⟩ := each .libName "007" (by simp)
  obtain rfl : "007" = spelled := Option.some.inj (named.symm.trans shown)
  have kept := spelling.kept_iff.mp String.ofList_toList.symm
  rw [padded] at kept
  rcases kept with ⟨-, noWhole⟩ | numeral | numeral
  · have far := noWhole 7 rfl
    omega
  · cases numeral with
    | plain tidy => cases tidy.lead rfl
  · exact absurd (point_mem_of_pointNumeral numeral) (by decide)

end Registrar.Config
