import Mathlib
import Registrar.Proofs.Generate.Writing
import Registrar.Proofs.Logged
import Registrar.Program

/-! The part of a run before anything is written: how it ends in a failure, and that such a failure
leaves the file system as it was. -/
namespace Registrar.Generate

variable {fs : FileSystem} {request : Request} {home : Location} {source : SourceFile}

/-- A source that is empty, or can be scanned. -/
def Usable (fs : FileSystem) (request : Request) (home : Location) (source : SourceFile) : Prop :=
  ∃ text, Source.read fs home source = .ok text ∧
    (text = [] ∨ ∃ scanned, scan request.vocabulary request.namespaceOverride text = .ok scanned)

/-- A run fails before it writes: the source directory cannot be opened, its entries cannot be
listed or followed, or, after any number of usable sources, one cannot be read or scanned. -/
inductive ReadingFails (fs : FileSystem) (request : Request) : Error → Prop
  | opening {error : Error} (failed : Source.openDirectory fs request.sourceDir = .error error) :
      ReadingFails fs request error
  | locating {home : Location} {error : Error}
      (opened : Source.openDirectory fs request.sourceDir = .ok home)
      (failed : (Source.locate fs home request.sourceDir request.vocabulary).result = .error error) :
      ReadingFails fs request error
  | reading {home : Location} {done left : List SourceFile} {source : SourceFile} {error : Error}
      (opened : Source.openDirectory fs request.sourceDir = .ok home)
      (located : (Source.locate fs home request.sourceDir request.vocabulary).result =
        .ok (done ++ source :: left))
      (usable : ∀ earlier ∈ done, Usable fs request home earlier)
      (failed : Source.read fs home source = .error error) :
      ReadingFails fs request error
  | scanning {home : Location} {done left : List SourceFile} {source : SourceFile}
      {text : List Char} {fault : ScanError}
      (opened : Source.openDirectory fs request.sourceDir = .ok home)
      (located : (Source.locate fs home request.sourceDir request.vocabulary).result =
        .ok (done ++ source :: left))
      (usable : ∀ earlier ∈ done, Usable fs request home earlier)
      (read : Source.read fs home source = .ok text) (nonempty : text ≠ [])
      (failed : scan request.vocabulary request.namespaceOverride text = .error fault) :
      ReadingFails fs request (scanFailure request.vocabulary source.name fault)

def artifactOf (request : Request) (name : String) (scanned : Scanned) : Artifact where
  source := name
  fileName := outputFileName name request.vocabulary
  content := Companion.content request.vocabulary scanned.extraction

theorem buildArtifact_result (request : Request) (name : String) (text : List Char) :
    (buildArtifact request name text).result =
      match scan request.vocabulary request.namespaceOverride text with
      | .error fault => .error (scanFailure request.vocabulary name fault)
      | .ok scanned => .ok (artifactOf request name scanned) := by
  simp only [buildArtifact, Logged.tell_bind]
  cases scan request.vocabulary request.namespaceOverride text <;> rfl

theorem prepare_result (fs : FileSystem) (home : Location) (request : Request)
    (source : SourceFile) : (prepare fs home request source).result =
      match Source.read fs home source with
      | .error error => .error error
      | .ok text =>
        if text = [] then .ok none
        else match scan request.vocabulary request.namespaceOverride text with
          | .error fault => .error (scanFailure request.vocabulary source.name fault)
          | .ok scanned => .ok (some (artifactOf request source.name scanned)) := by
  simp only [prepare, Logged.bind_result, Logged.lift_result]
  cases Source.read fs home source with
  | error error => rfl
  | ok text =>
    change Logged.result (if text = [] then _ else _) = _
    dsimp only
    split
    · rfl
    · rw [Logged.bind_result, buildArtifact_result]
      cases scan request.vocabulary request.namespaceOverride text <;> rfl

theorem usable_iff : Usable fs request home source ↔
    ∃ artifact, (prepare fs home request source).result = .ok artifact := by
  rw [prepare_result, Usable]
  cases Source.read fs home source with
  | error error => simp
  | ok text =>
    simp only [Except.ok.injEq, exists_eq_left']
    by_cases empty : text = []
    · simp [empty]
    · cases scan request.vocabulary request.namespaceOverride text <;> simp [empty]

theorem prepare_error_iff {error : Error} :
    (prepare fs home request source).result = .error error ↔
      Source.read fs home source = .error error ∨
      ∃ text fault, Source.read fs home source = .ok text ∧ text ≠ [] ∧
        scan request.vocabulary request.namespaceOverride text = .error fault ∧
        error = scanFailure request.vocabulary source.name fault := by
  rw [prepare_result]
  cases Source.read fs home source with
  | error error => simp
  | ok text =>
    simp only [Except.ok.injEq, reduceCtorEq, false_or, exists_and_left, exists_eq_left']
    by_cases empty : text = []
    · simp [empty]
    · cases scan request.vocabulary request.namespaceOverride text <;> simp [empty, eq_comm]

theorem plan_result (fs : FileSystem) (request : Request) : (plan fs request).result = do
    let home ← Source.openDirectory fs request.sourceDir
    let sources ← (Source.locate fs home request.sourceDir request.vocabulary).result
    let prepared ← (Logged.forEach (prepare fs home request) sources).result
    return { sources, skippedEmpty := prepared.count none, artifacts := prepared.filterMap id } := by
  simp only [plan, Logged.tell_bind, Logged.tellAll_bind, Logged.bind_result, Logged.lift_result,
    Logged.pure_result]
  rfl

/-- Reading fails in one of these ways and in no other. -/
theorem plan_error_iff {error : Error} :
    (plan fs request).result = .error error ↔ ReadingFails fs request error := by
  simp only [plan_result, bind_eq_error_iff, Logged.forEach_error_iff, prepare_error_iff]
  constructor
  · rintro (failed | ⟨home, opened, failed | ⟨sources, located, failed | impossible⟩⟩)
    · exact .opening failed
    · exact .locating opened failed
    · obtain ⟨done, source, left, rfl, usable, failed⟩ := failed
      have usable : ∀ earlier ∈ done, Usable fs request home earlier :=
        fun earlier member => usable_iff.mpr (usable earlier member)
      rcases failed with failed | ⟨text, fault, read, nonempty, failed, rfl⟩
      · exact .reading opened located usable failed
      · exact .scanning opened located usable read nonempty failed
    · obtain ⟨prepared, -, ⟨⟩⟩ := impossible
  · rintro (failed | ⟨opened, failed⟩ | ⟨opened, located, usable, failed⟩ |
      ⟨opened, located, usable, read, nonempty, failed⟩)
    · exact .inl failed
    · exact .inr ⟨_, opened, .inl failed⟩
    all_goals
      refine .inr ⟨_, opened, .inr ⟨_, located, .inl ⟨_, _, _, rfl, ?_, ?_⟩⟩⟩
      · exact fun earlier member => usable_iff.mp (usable earlier member)
    · exact .inl failed
    · exact .inr ⟨_, _, read, nonempty, failed, rfl⟩

theorem write_error {planned : Plan} {error : Error}
    (failed : (write fs request planned).result = .error error) :
    ∃ path reason, error = .io path reason := by
  simp only [write] at failed
  split at failed
  · rename_i refused
    cases failed
    obtain ⟨reason, rfl⟩ := Output.ensureDirectory_error refused
    exact ⟨_, reason, rfl⟩
  · rename_i made directory ensured
    cases written : (writeArtifacts directory (outputDir request.sourceDir request.vocabulary) made
        planned.artifacts).result with
    | ok targets => simp [written, Except.map] at failed
    | error other =>
      simp only [written, Except.map, Except.error.injEq] at failed
      subst failed
      obtain ⟨_, refused, _, -, -, refusal⟩ := refused_of_writeArtifacts written
      exact ⟨_, Output.writeIfChanged_error refusal⟩

theorem generate_of_readingFails {error : Error} (failed : ReadingFails fs request error) :
    (generate fs request).result = .error error ∧ (generate fs request).fileSystem = fs := by
  simp only [generate, plan_error_iff.mpr failed, and_self]

/-- A failure that is none of the file system's comes from reading. -/
theorem readingFails_of_generate {error : Error}
    (failed : (generate fs request).result = .error error)
    (other : ∀ path reason, error ≠ .io path reason) : ReadingFails fs request error := by
  simp only [generate] at failed
  split at failed
  · rename_i planned
    cases failed
    exact plan_error_iff.mp planned
  · obtain ⟨path, reason, rfl⟩ := write_error failed
    exact absurd rfl (other path reason)

/-- Short spellings, in which every name is that of a test source. -/
def terse : Vocabulary where
  namespaceMarker := "N"
  suiteMarker := "C"
  testMarker := "T"
  runClassBegin := "B"
  runClassEnd := "E"
  runMethod := "R"
  header := "h"
  headerStyle := .plainInclude
  frameworkSource := "z"
  extension := ""
  outputDir := "o"
  outputPrefix := "_"

end Registrar.Generate

namespace Registrar.Program
open Generate

variable {fs : FileSystem} {words : List String} {environment : List (String × String)}

/-- A run of the program ends before it writes: its words cannot be used or ask for a notice, the
settings cannot be loaded, or reading fails. -/
inductive EndsEarly (fs : FileSystem) (words : List String) (environment : List (String × String)) :
    Option Error → Prop
  | notAsked (other : ∀ arguments, CommandLine.read words ≠ .ok (.generate arguments)) :
      EndsEarly fs words environment none
  | unsettled {arguments : CommandLine.Arguments} {error : Error}
      (asked : CommandLine.read words = .ok (.generate arguments))
      (failed : Config.load fs arguments.config environment arguments.chosen = .error error) :
      EndsEarly fs words environment (some error)
  | unread {arguments : CommandLine.Arguments} {settings : Config.Settings} {error : Error}
      (asked : CommandLine.read words = .ok (.generate arguments))
      (loaded : Config.load fs arguments.config environment arguments.chosen = .ok settings)
      (failed : ReadingFails fs (request settings) error) :
      EndsEarly fs words environment (some error)

theorem run_of_endsEarly {failure : Option Error} (ends : EndsEarly fs words environment failure) :
    (run fs words environment).fileSystem = fs ∧ (run fs words environment).failure = failure := by
  cases ends with
  | notAsked other =>
    simp only [run]
    split
    · exact ⟨rfl, rfl⟩
    · rename_i arguments asked
      exact absurd asked (other arguments)
    · exact ⟨rfl, rfl⟩
  | unsettled asked failed => simp only [run, asked, work, failed, and_self]
  | unread asked loaded failed =>
    obtain ⟨result, fileSystem⟩ := generate_of_readingFails failed
    simp only [run, asked, work, loaded, result, fileSystem, and_self]

/-- A usage error, and every failure but one of the file system's, ends the run early. -/
theorem endsEarly_of_run {finished : Finished} (ran : run fs words environment = finished)
    (early : finished.usage.isSome = true ∨
      ∃ error, finished.failure = some error ∧ ∀ path reason, error ≠ .io path reason) :
    EndsEarly fs words environment finished.failure := by
  subst ran
  simp only [run] at early ⊢
  split at early
  · rename_i error refused
    apply EndsEarly.notAsked
    intro arguments asked
    rw [refused] at asked
    cases asked
  · rename_i arguments asked
    simp only [Option.isSome_none, Bool.false_eq_true, false_or, work] at early ⊢
    cases loaded : Config.load fs arguments.config environment arguments.chosen with
    | error error => exact .unsettled asked loaded
    | ok settings =>
      simp only [loaded] at early ⊢
      cases generated : (generate fs (request settings)).result with
      | error error =>
        simp only [generated, Option.some.injEq, exists_eq_left'] at early
        exact .unread asked loaded (readingFails_of_generate generated early)
      | ok summary => simp [generated] at early
  · rename_i command notGenerate read
    exact .notAsked fun arguments asked => notGenerate arguments (Except.ok.inj (read.symm.trans asked))

/-- **Nothing is written before all sources are read and scanned.** A run that fails while it opens,
lists, follows, reads or scans leaves the file system as it was, and every failure of `generate`
other than one of the file system's is such a failure. The same holds of the whole program, which
besides can end at its command line or its settings. -/
theorem failure_before_writing_changes_nothing (fs : FileSystem) :
    (∀ request error, ReadingFails fs request error →
      (generate fs request).result = .error error ∧ (generate fs request).fileSystem = fs) ∧
    (∀ request error, (generate fs request).result = .error error →
      (∀ path reason, error ≠ .io path reason) → ReadingFails fs request error) ∧
    (∀ words environment failure, EndsEarly fs words environment failure →
      (run fs words environment).fileSystem = fs ∧
        (run fs words environment).failure = failure) ∧
    ∀ words environment finished, run fs words environment = finished →
      (finished.usage.isSome = true ∨
        ∃ error, finished.failure = some error ∧ ∀ path reason, error ≠ .io path reason) →
      EndsEarly fs words environment finished.failure :=
  ⟨fun _ _ => generate_of_readingFails, fun _ _ => readingFails_of_generate,
    fun _ _ _ => run_of_endsEarly, fun _ _ _ => endsEarly_of_run⟩

/-- A directory with a good source, and after it in order one that opens no test class. -/
def halfUsable : FileSystem :=
  let home := [Utf8.bytes "s"]
  ((FileSystem.empty.set home .directory).setFile
    (home ++ [Utf8.bytes "b"]) (Utf8.bytes "Tf")).setFile (home ++ [Utf8.bytes "a"]) (Utf8.bytes "Cx")

theorem halfUsable_stays :
    ReadingFails halfUsable ⟨"s", some "l", terse⟩ (.missingSuiteDeclaration "b" "C") ∧
    (generate halfUsable ⟨"s", some "l", terse⟩).fileSystem = halfUsable ∧
    (run halfUsable ["--unknown"] []).fileSystem = halfUsable := by
  obtain ⟨fails, failing, ends, ending⟩ := failure_before_writing_changes_nothing halfUsable
  have reading := failing ⟨"s", some "l", terse⟩ (.missingSuiteDeclaration "b" "C")
    (by cbv) (by simp)
  have early := ending ["--unknown"] [] _ rfl (.inl (by cbv))
  exact ⟨reading, (fails _ _ reading).2, (ends _ _ _ early).1⟩

end Registrar.Program
