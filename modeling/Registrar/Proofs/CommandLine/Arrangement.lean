import Registrar.Program

/-! Command lines in any arrangement. Options with their values and plain texts can be spelled in
many ways and stand in any order; what is read from the words is what was to be said. -/
namespace Registrar.CommandLine

/-- One thing that a command line says. -/
inductive Part where
  | option (option : ValueOption) (value : String)
  | plain (text : String)

namespace Part

def text? : Part → Option String
  | plain text => some text
  | option .. => none

def value? (wanted : ValueOption) : Part → Option String
  | option given value => if given = wanted then some value else none
  | plain _ => none

end Part

/-- The plain texts, in their order. -/
def texts (parts : List Part) : List String :=
  parts.filterMap Part.text?

/-- The values that the option is given. -/
def values (option : ValueOption) (parts : List Part) : List String :=
  parts.filterMap (Part.value? option)

/-- A word that no option begins like: it starts with no dash, or is one dash alone. -/
def IsBare (word : String) : Prop :=
  word.toList.head? = some '-' → word = "-"

instance : DecidablePred IsBare := fun word =>
  inferInstanceAs (Decidable (word.toList.head? = some '-' → word = "-"))

/-- The words spell the parts in their order. The value of an option stands behind an equals sign,
or in a word of its own if that is bare. A plain text is a bare word, or any word after the divider,
which only plain texts follow. -/
inductive Spells : List Part → List String → Prop
  | nothing : Spells [] []
  | attached {option : ValueOption} {value : String} {parts : List Part} {words : List String}
      (rest : Spells parts words) :
      Spells (.option option value :: parts) (("--" ++ option.name ++ "=" ++ value) :: words)
  | apart {option : ValueOption} {value : String} {parts : List Part} {words : List String}
      (bare : IsBare value) (rest : Spells parts words) :
      Spells (.option option value :: parts) (("--" ++ option.name) :: value :: words)
  | plain {text : String} {parts : List Part} {words : List String} (bare : IsBare text)
      (rest : Spells parts words) : Spells (.plain text :: parts) (text :: words)
  | divided (words : List String) : Spells (words.map .plain) ("--" :: words)

/-- The parts give the profile and the configuration file, each once if at all. -/
structure Chooses (parts : List Part) (profile : Option Profile) (config : Option String) : Prop where
  profile : values .profile parts = (profile.map Profile.name).toList
  config : values .config parts = config.toList

/-- What the parts say. -/
def argumentsOf (parts : List Part) : Arguments where
  libName := (texts parts)[0]?
  sourceDir := (texts parts)[1]?
  profile := (values .profile parts).head?.bind Profile.ofName?
  config := (values .config parts).head?

/-- What is read from words that spell the parts: a third plain text is one too many. -/
def outcome (parts : List Part) : Except UsageError Command :=
  match (texts parts)[2]? with
  | some third => .error (.unexpectedArgument third)
  | none => .ok (.generate (argumentsOf parts))

/-! ### Words -/

theorem Word.read_of_bare {text : String} (bare : IsBare text) : Word.read text = .plain text := by
  by_cases dash : text.toList.head? = some '-'
  · rw [bare dash]
    rfl
  · have undashed (rest : List Char) : text.toList ≠ '-' :: rest := by
      intro spelled
      exact dash (by rw [spelled]; rfl)
    rw [Word.read]
    split
    · exact absurd ‹_› (undashed _)
    · exact absurd ‹_› (undashed _)
    · exact absurd ‹_› (undashed _)
    · rfl

theorem Word.read_attached (option : ValueOption) (value : String) :
    Word.read ("--" ++ option.name ++ "=" ++ value) = .long option.name (some value) := by
  cases option <;> simp [Word.read, ValueOption.name, String.toList_append]

theorem Word.read_option (option : ValueOption) :
    Word.read ("--" ++ option.name) = .long option.name none := by
  cases option <;> decide

theorem notice_find?_name (option : ValueOption) :
    Notice.all.find? (·.name == option.name) = none := by
  cases option <;> decide

theorem option_find?_name (option : ValueOption) :
    ValueOption.all.find? (·.name == option.name) = some option := by
  cases option <;> decide

/-! ### Progress -/

variable {parts done : List Part} {words : List String} {progress : Progress}
  {profile : Option Profile} {config : Option String} {option : ValueOption} {value text : String}

@[simp]
theorem texts_append (done parts : List Part) : texts (done ++ parts) = texts done ++ texts parts :=
  List.filterMap_append

@[simp]
theorem texts_plain (text : String) (parts : List Part) :
    texts (.plain text :: parts) = text :: texts parts := rfl

@[simp]
theorem texts_option (option : ValueOption) (value : String) (parts : List Part) :
    texts (.option option value :: parts) = texts parts := rfl

@[simp]
theorem texts_nil : texts [] = [] := rfl

@[simp]
theorem values_append (option : ValueOption) (done parts : List Part) :
    values option (done ++ parts) = values option done ++ values option parts :=
  List.filterMap_append

@[simp]
theorem values_plain (option : ValueOption) (text : String) (parts : List Part) :
    values option (.plain text :: parts) = values option parts := rfl

@[simp]
theorem values_option (wanted option : ValueOption) (value : String) (parts : List Part) :
    values wanted (.option option value :: parts) =
      if option = wanted then value :: values wanted parts else values wanted parts := by
  cases wanted <;> cases option <;> rfl

@[simp]
theorem values_nil (option : ValueOption) : values option [] = [] := rfl

/-- The progress holds what was said so far, and the next plain word is no value of an option. -/
structure Holds (progress : Progress) (done : List Part) : Prop where
  stored : progress.stored = .ok (argumentsOf done)
  settled : progress.waiting? = none
  few : (texts done).length ≤ 2

theorem holds_stored (few : (texts done).length ≤ 2) : Holds { arguments := argumentsOf done } done :=
  ⟨rfl, rfl, few⟩

/-- Storing an option leaves the plain texts as they are. -/
theorem texts_of_store {arguments after : Arguments}
    (stored : Progress.store arguments option value = .ok after) :
    after.libName = arguments.libName ∧ after.sourceDir = arguments.sourceDir := by
  unfold Progress.store at stored
  split at stored
  · split at stored
    · cases stored
    · cases stored
      exact ⟨rfl, rfl⟩
  · split at stored
    · cases stored
    · split at stored
      · cases stored
        exact ⟨rfl, rfl⟩
      · cases stored

theorem Holds.arguments (holds : Holds progress done) :
    progress.arguments.libName = (texts done)[0]? ∧
      progress.arguments.sourceDir = (texts done)[1]? := by
  have stored := holds.stored
  unfold Progress.stored at stored
  split at stored
  · rw [Except.ok.inj stored]
    exact ⟨rfl, rfl⟩
  · obtain ⟨first, second⟩ := texts_of_store stored
    exact ⟨first.symm, second.symm⟩
  · cases stored

/-- A plain word is stored, with the option before it, while there is room for one. -/
theorem Holds.takePlain (holds : Holds progress done) (room : (texts done).length < 2) :
    ∃ next, progress.takePlain text = .ok next ∧ Holds next (done ++ [.plain text]) := by
  have few : (texts (done ++ [.plain text])).length ≤ 2 := by
    simpa using Nat.le_of_lt_succ room
  refine ⟨_, ?_, holds_stored few⟩
  obtain ⟨first, second⟩ := holds.arguments
  simp only [Progress.takePlain, first, second, holds.stored]
  match before : texts done, room with
  | [], _ => simp [argumentsOf, before, bind, Except.bind, pure, Except.pure]
  | [name], _ => simp [argumentsOf, before, bind, Except.bind, pure, Except.pure]

/-- A plain word too many is refused. -/
theorem Holds.refuses (holds : Holds progress done) (full : ¬ (texts done).length < 2) :
    progress.takePlain text = .error (.unexpectedArgument text) ∧
      outcome (done ++ .plain text :: parts) = .error (.unexpectedArgument text) := by
  obtain ⟨first, second⟩ := holds.arguments
  have two : (texts done).length = 2 := by
    have few := holds.few
    omega
  match before : texts done, two with
  | [name, directory], _ => simp [Progress.takePlain, first, second, outcome, before]

theorem outcome_of_few (few : (texts done).length ≤ 2) :
    outcome done = .ok (.generate (argumentsOf done)) := by
  rw [outcome, List.getElem?_eq_none few]

theorem single_of_append {values later : List String} {given : Option String}
    (parts : values ++ value :: later = given.toList) : values = [] ∧ given = some value := by
  cases given with
  | none => simp at parts
  | some given =>
    obtain ⟨rfl, same⟩ | ⟨rest, same, none⟩ := List.append_eq_cons_iff.mp parts
    · exact ⟨rfl, by rw [(List.cons.inj same).1]⟩
    · simp at none

theorem Chooses.store (chooses : Chooses (done ++ .option option value :: parts) profile config) :
    Progress.store (argumentsOf done) option value =
      .ok (argumentsOf (done ++ [.option option value])) := by
  cases option with
  | profile =>
    have given := chooses.profile
    simp only [values_append, values_option, if_true] at given
    obtain ⟨first, given⟩ := single_of_append given
    obtain ⟨profile, rfl, rfl⟩ := Option.map_eq_some_iff.mp given
    simp [Progress.store, argumentsOf, first, Profile.ofName?_name]
  | config =>
    have given := chooses.config
    simp only [values_append, values_option, if_true] at given
    obtain ⟨first, -⟩ := single_of_append given
    simp [Progress.store, argumentsOf, first]

theorem readPlain_of_holds (holds : Holds progress done) (words : List String) :
    readPlain progress words = outcome (done ++ words.map .plain) := by
  induction words generalizing progress done with
  | nil =>
    simp only [readPlain, holds.stored, List.map_nil, List.append_nil, outcome_of_few holds.few]
    rfl
  | cons text words ih =>
    by_cases room : (texts done).length < 2
    · obtain ⟨next, taken, holds⟩ := holds.takePlain room
      rw [readPlain, taken, List.map_cons, List.append_cons]
      exact ih holds
    · obtain ⟨refused, fails⟩ := holds.refuses room
      rw [readPlain, refused, List.map_cons, fails]
      rfl

/-- What is read from words is what the parts say that they spell, after those said before. -/
theorem readWords_of_spells (spells : Spells parts words) (holds : Holds progress done)
    (chooses : Chooses (done ++ parts) profile config) :
    readWords progress words = outcome (done ++ parts) := by
  induction spells generalizing progress done with
  | nothing =>
    simp only [readWords, holds.stored, List.append_nil, outcome_of_few holds.few]
    rfl
  | @attached option value parts words rest ih =>
    have stored := chooses.store
    rw [List.append_cons] at chooses ⊢
    rw [readWords, Word.read_attached]
    simp only [notice_find?_name, option_find?_name, holds.stored, bind, Except.bind, stored]
    exact ih (holds_stored (by simpa using holds.few)) chooses
  | @apart option value parts words bare rest ih =>
    have stored := chooses.store
    rw [List.append_cons] at chooses ⊢
    rw [readWords, Word.read_option]
    simp only [notice_find?_name, option_find?_name, holds.stored, bind, Except.bind]
    rw [readWords, Word.read_of_bare bare]
    exact ih ⟨stored, rfl, by simpa using holds.few⟩ chooses
  | @plain text parts words bare rest ih =>
    rw [readWords, Word.read_of_bare bare]
    simp only [holds.settled]
    by_cases room : (texts done).length < 2
    · obtain ⟨next, taken, holds⟩ := holds.takePlain room
      rw [List.append_cons] at chooses ⊢
      rw [taken]
      exact ih holds chooses
    · obtain ⟨refused, fails⟩ := holds.refuses room
      rw [refused, fails]
      rfl
  | divided => exact readPlain_of_holds holds _

theorem Chooses.arguments (chooses : Chooses parts profile config) :
    argumentsOf parts = ⟨(texts parts)[0]?, (texts parts)[1]?, profile, config⟩ := by
  have profiles : (values .profile parts).head?.bind Profile.ofName? = profile := by
    rw [chooses.profile]
    cases profile with
    | none => rfl
    | some profile => exact Profile.ofName?_name profile
  have configs : (values .config parts).head? = config := by
    rw [chooses.config, Option.head?_toList]
  rw [argumentsOf, profiles, configs]

/-- **A command line can be arranged in any way.** Words that spell at most two plain texts and each
option at most once are read as these texts, in their order the library's name and the source
directory, with the profile and the configuration file given; the settings chosen are those. A third
plain text cannot be used: the run ends with exit code two and leaves the file system as it is. -/
theorem read_arrangement (spells : Spells parts words) (chooses : Chooses parts profile config) :
    ((texts parts).length ≤ 2 → ∃ arguments, read words = .ok (.generate arguments) ∧
      arguments = ⟨(texts parts)[0]?, (texts parts)[1]?, profile, config⟩ ∧
      arguments.chosen = ⟨profile, (texts parts)[1]?, (texts parts)[0]?⟩) ∧
    ∀ third, (texts parts)[2]? = some third →
      read words = .error (.unexpectedArgument third) ∧
      ∀ fs environment, (run fs words environment).usage = some (.unexpectedArgument third) ∧
        (run fs words environment).exitCode = 2 ∧ (run fs words environment).fileSystem = fs := by
  have start : Holds {} [] := ⟨rfl, rfl, by decide⟩
  have outcomes : read words = outcome parts := readWords_of_spells spells start chooses
  constructor
  · intro few
    rw [outcomes, outcome_of_few few, chooses.arguments]
    exact ⟨_, rfl, rfl, rfl⟩
  · intro third surplus
    have refused : read words = .error (.unexpectedArgument third) := by
      rw [outcomes, outcome, surplus]
    refine ⟨refused, fun fs environment => ?_⟩
    rw [run, refused]
    exact ⟨rfl, rfl, rfl⟩

/-- Texts that look like options, as values and after the divider. -/
theorem lookalikes_arranged :
    read ["--config", "a=b", "lib", "--profile=hunittest", "--", "-h"] =
        .ok (.generate ⟨some "lib", some "-h", some .hunittest, some "a=b"⟩) ∧
      read ["a", "--config=--", "b", "-"] = .error (.unexpectedArgument "-") := by
  constructor
  · let parts : List Part :=
      [.option .config "a=b", .plain "lib", .option .profile "hunittest", .plain "-h"]
    have spells : Spells parts ["--config", "a=b", "lib", "--profile=hunittest", "--", "-h"] :=
      .apart (by decide) (.plain (by decide) (.attached (.divided ["-h"])))
    have chooses : Chooses parts (some .hunittest) (some "a=b") := ⟨rfl, rfl⟩
    obtain ⟨arguments, done, rfl, -⟩ := (read_arrangement spells chooses).1 (by decide)
    exact done
  · let parts : List Part := [.plain "a", .option .config "--", .plain "b", .plain "-"]
    have spells : Spells parts ["a", "--config=--", "b", "-"] :=
      .plain (by decide) (.attached (.plain (by decide) (.plain (by decide) .nothing)))
    have chooses : Chooses parts none (some "--") := ⟨rfl, rfl⟩
    exact ((read_arrangement spells chooses).2 "-" rfl).1

end Registrar.CommandLine
