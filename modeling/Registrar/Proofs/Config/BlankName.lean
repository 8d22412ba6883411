import Mathlib
import Registrar.Proofs.Config.Precedence
import Registrar.Proofs.Config.Replacements
import Registrar.Proofs.Text.Strip

/-! A blank library name on the command line. It loads wherever no name does, and leaves the profile,
the source directory and the vocabulary as they are; but it stands above the names of the variables
and of the file, and so is as good as no name exactly where these name no library. -/
namespace Registrar.Config
open Text Value

variable {fs : FileSystem} {config : Option String} {file : Option Value}
  {environment : List (String × String)} {chosen : Chosen} {settings others : Settings}
  {fields altered : Fields} {name : String}

/-- The same settings for a run: the same override, profile, source directory and vocabulary. -/
structure Settings.Agrees (settings others : Settings) : Prop where
  namespaceOverride : others.namespaceOverride = settings.namespaceOverride
  profile : others.profile = settings.profile
  sourceDir : others.sourceDir = settings.sourceDir
  vocabulary : others.vocabulary = settings.vocabulary

theorem Settings.namespaceOverride_eq_none_iff :
    settings.namespaceOverride = none ↔ ∀ text ∈ settings.libName, Blank text := by
  rw [namespaceOverride]
  cases settings.libName with
  | none => simp
  | some text => simp [← trimmed_eq_empty_iff]

/-- With another library name, all else is decoded as before. -/
theorem decoded_of_renamed (decoded : Decode.settings fields = .ok settings)
    (named : Fields.get? altered libNameKey = some (.scalar .commandLine (.text name)))
    (beside : ∀ key, key ≠ libNameKey → Fields.get? altered key = Fields.get? fields key) :
    Decode.settings altered = .ok { settings with libName := some name } := by
  have library : Decode.field? Decode.text altered libNameKey = .ok (some name) :=
    Decode.field?_of_some named rfl
  have kept {α : Type} (decode : List String → Value → Except Fault α) {key : String}
      (other : key ≠ libNameKey) :
      Decode.field? decode altered key = Decode.field? decode fields key := by
    rw [Decode.field?, Decode.field?, beside key other]
  simp only [Decode.settings, bind_eq_ok_iff] at decoded
  obtain ⟨_, -, profile, profiled, sourceDir, placed, replacements, replaced, same⟩ := decoded
  cases same
  exact Decode.settings_of_fields library ((kept _ (by decide)).trans profiled)
    ((kept _ (by decide)).trans placed) ((kept _ (by decide)).trans replaced)

/-- A name that is added to the choices is set in their layer, and nothing else is. -/
theorem at?_renamed (absent : chosen.libName = none) (name key : String) :
    at? [key] (some (Chosen.layer { chosen with libName := some name })) =
      if key = libNameKey then some (.scalar .commandLine (.text name))
      else at? [key] (some chosen.layer) := by
  obtain ⟨profile, sourceDir, libName⟩ := chosen
  obtain rfl : libName = none := absent
  exact Fields.get?_cons _ _ _ _

theorem load_renamed (loaded : load fs config environment chosen = .ok settings)
    (absent : chosen.libName = none) (name : String) :
    load fs config environment { chosen with libName := some name } =
      .ok { settings with libName := some name } := by
  obtain ⟨file, read, -⟩ := bind_eq_ok_iff.mp loaded
  have decoded := decoded_of_load read loaded
  have renamed : Decode.settings
      (merged (stack file environment { chosen with libName := some name })).fields =
        .ok { settings with libName := some name } := by
    apply decoded_of_renamed decoded
    · rw [get?_merged, at?_merged_stack, at?_renamed absent, if_pos rfl, overlay?,
        overlay_of_plain (by simp)]
    · intro key other
      rw [get?_merged, get?_merged, at?_merged_stack, at?_merged_stack, at?_renamed absent,
        if_neg other]
  rw [load_eq read, settled, renamed]

/-- Without a name among the choices there is an override exactly where the variables or the file name
a library. -/
theorem namespaceOverride_of_absent (read : fileLayer fs config = .ok file)
    (loaded : load fs config environment chosen = .ok settings) (absent : chosen.libName = none) :
    settings.namespaceOverride = none ↔ ∀ origin scalar,
      decisive? .libName (beneath file environment).reverse = some (.scalar origin scalar) →
        Blank scalar.plain := by
  have nameless : chosen.text? .libName = none := absent
  have spells := load_spells read loaded .libName
  rw [decisive?_of_absent nameless] at spells
  change Spells _ settings.libName at spells
  rw [Settings.namespaceOverride_eq_none_iff]
  generalize decisive? .libName (beneath file environment).reverse = found at spells ⊢
  generalize settings.libName = text at spells ⊢
  cases spells with
  | absent => simp
  | scalar => simp

/-- **A blank name on the command line is no name, and stands above those below it.** With it the
settings load wherever they load without a name, and are the same but for the library: there is no
override, whatever the variables and the file name. So it means the same as no name exactly where
these name no library. -/
theorem load_blank_name (read : fileLayer fs config = .ok file)
    (loaded : load fs config environment chosen = .ok settings) (absent : chosen.libName = none)
    (blank : Blank name) :
    ∃ others, load fs config environment { chosen with libName := some name } = .ok others ∧
      others.profile = settings.profile ∧ others.sourceDir = settings.sourceDir ∧
      others.vocabulary = settings.vocabulary ∧ others.namespaceOverride = none ∧
      (settings.Agrees others ↔ ∀ origin scalar,
        decisive? .libName (beneath file environment).reverse = some (.scalar origin scalar) →
          Blank scalar.plain) := by
  have none : Settings.namespaceOverride { settings with libName := some name } = none :=
    Settings.namespaceOverride_eq_none_iff.mpr (by simpa using blank)
  refine ⟨_, load_renamed loaded absent name, rfl, rfl, rfl, none, ?_⟩
  rw [← namespaceOverride_of_absent read loaded absent]
  constructor
  · intro agrees
    rw [← agrees.namespaceOverride, none]
  · intro nameless
    exact ⟨none.trans nameless.symm, rfl, rfl, rfl⟩

/-- What a variable that names a library gives. -/
def libraryLayer (library : String) : Value :=
  .table .environment [(libNameKey, .scalar .environment (.text library))]

theorem load_library : load .empty none [("HTEST_GEN_LIB_NAME", "lib")] {} =
    .ok ⟨.htest, Settings.defaultSourceDir, some "lib", {}⟩ := by
  have set : Environment.layer [("HTEST_GEN_LIB_NAME", "lib")] = libraryLayer "lib" := by cbv
  have decoded : Decode.settings (merged (stack none [("HTEST_GEN_LIB_NAME", "lib")] {})).fields =
      .ok ⟨.htest, Settings.defaultSourceDir, some "lib", {}⟩ := by
    rw [stack, beneath, set]
    cbv
  rw [load_eq fileLayer_empty, settled, decoded]

/-- A variable names a library, and an empty name on the command line takes it away. -/
theorem library_taken_away : ∃ others,
    load .empty none [("HTEST_GEN_LIB_NAME", "lib")] { libName := some "" } = .ok others ∧
      others.namespaceOverride = none := by
  have blank : Blank "" := by simp [Blank]
  obtain ⟨others, loaded, -, -, -, none, -⟩ :=
    load_blank_name fileLayer_empty load_library rfl blank
  exact ⟨others, loaded, none⟩

theorem blank_name_not_always_absent : ¬ ∀ (fs : FileSystem) (config : Option String)
    (environment : List (String × String)) (chosen : Chosen) (settings : Settings) (name : String),
    chosen.libName = none → load fs config environment chosen = .ok settings → Blank name →
    ∃ others, load fs config environment { chosen with libName := some name } = .ok others ∧
      settings.Agrees others := by
  intro absent
  have blank : Blank "" := by simp [Blank]
  obtain ⟨others, loaded, agrees⟩ := absent _ _ _ _ _ "" rfl load_library blank
  rw [load_renamed load_library rfl] at loaded
  cases loaded
  have names : Settings.namespaceOverride ⟨.htest, Settings.defaultSourceDir, some "lib", {}⟩ =
      some "lib" := by cbv
  have none : Settings.namespaceOverride ⟨.htest, Settings.defaultSourceDir, some "", {}⟩ = none := by
    cbv
  cases names.symm.trans (agrees.namespaceOverride.symm.trans none)

end Registrar.Config
