import Mathlib
import Registrar.Proofs.Generate.Delivery
import Registrar.Proofs.Source.Relisting

/-! Which failure of a source is reported. Every source that was located can be read, so that a run
which has located its sources stops before writing for one reason alone: a source lacks its markers.
Of several such sources the one whose name comes first is reported, in whatever order the directory
is listed. -/
namespace Registrar.Generate
open FileSystem

variable {fs after : FileSystem} {request : Request} {home : Location} {sources : List SourceFile}
  {source : SourceFile} {fault : ScanError} {error : Error} {vocabulary : Vocabulary} {file : String}

/-- The failure that tells of a fault in a file: of its kind, with the name of the file and the
marker that was looked for. -/
inductive Reports (vocabulary : Vocabulary) (file : String) : ScanError → Error → Prop
  | missingNamespace : Reports vocabulary file .missingNamespace
      (.missingNamespace file vocabulary.namespaceMarker)
  | missingSuiteDeclaration : Reports vocabulary file .missingSuiteDeclaration
      (.missingSuiteDeclaration file vocabulary.suiteMarker)
  | blankSuiteName : Reports vocabulary file .blankSuiteName
      (.blankSuiteName file vocabulary.suiteMarker)

inductive IsMarkerFailure : Error → Prop
  | missingNamespace {file marker : String} : IsMarkerFailure (.missingNamespace file marker)
  | missingSuiteDeclaration {file marker : String} :
      IsMarkerFailure (.missingSuiteDeclaration file marker)
  | blankSuiteName {file marker : String} : IsMarkerFailure (.blankSuiteName file marker)

/-- A source with text in which the scanner finds a fault. -/
def FailsScan (fs : FileSystem) (request : Request) (home : Location) (source : SourceFile)
    (fault : ScanError) : Prop :=
  ∃ text, Source.read fs home source = .ok text ∧ text ≠ [] ∧
    scan request.vocabulary request.namespaceOverride text = .error fault

/-- Among the sources, one that fails and whose name is the least of those that fail. -/
structure FirstFailure (fs : FileSystem) (request : Request) (home : Location)
    (sources : List SourceFile) (source : SourceFile) (fault : ScanError) : Prop where
  member : source ∈ sources
  fails : FailsScan fs request home source fault
  least : ∀ other ∈ sources, ∀ fault, FailsScan fs request home other fault →
    Utf8.bytes source.name ≤ Utf8.bytes other.name

theorem reports_iff : Reports vocabulary file fault error ↔
    error = scanFailure vocabulary file fault := by
  constructor
  · intro reports
    cases reports <;> rfl
  · rintro rfl
    cases fault <;> constructor

theorem Reports.isMarkerFailure (reports : Reports vocabulary file fault error) :
    IsMarkerFailure error := by
  cases reports <;> constructor

theorem IsMarkerFailure.not_io (marker : IsMarkerFailure error) (path : String) (reason : IoError) :
    error ≠ .io path reason := by
  rintro rfl
  cases marker

theorem generate_markerFailure_iff (marker : IsMarkerFailure error) :
    (generate fs request).result = .error error ↔ ReadingFails fs request error := by
  constructor
  · intro failed
    exact readingFails_of_generate failed marker.not_io
  · intro failed
    exact (generate_of_readingFails failed).1

/-- A source that can be read is usable, or fails to scan. -/
theorem usable_iff_of_read (read : ∃ text, Source.read fs home source = .ok text) :
    Usable fs request home source ↔ ∀ fault, ¬ FailsScan fs request home source fault := by
  obtain ⟨text, read⟩ := read
  have only {other : List Char} (same : Source.read fs home source = .ok other) : other = text :=
    Except.ok.inj (same.symm.trans read)
  constructor
  · rintro ⟨other, found, usable⟩ fault ⟨again, reread, nonempty, failed⟩
    obtain rfl := only found
    obtain rfl := only reread
    rcases usable with empty | ⟨scanned, succeeded⟩
    · exact nonempty empty
    · rw [failed] at succeeded
      cases succeeded
  · intro never
    refine ⟨text, read, ?_⟩
    by_cases empty : text = []
    · exact .inl empty
    · cases result : scan request.vocabulary request.namespaceOverride text with
      | ok scanned => exact .inr ⟨scanned, rfl⟩
      | error fault => exact absurd ⟨text, read, empty, result⟩ (never fault)

theorem firstFailure_of_usable {done left : List SourceFile}
    (located : Source.Located fs home request.sourceDir request.vocabulary (done ++ source :: left))
    (usable : ∀ earlier ∈ done, Usable fs request home earlier)
    (fails : FailsScan fs request home source fault) :
    FirstFailure fs request home (done ++ source :: left) source fault := by
  refine ⟨by simp, fails, ?_⟩
  intro other member otherFault failed
  rcases List.mem_append.mp member with earlier | later
  · obtain ⟨_, _, _, -, -, read⟩ := Source.read_of_located located member
    exact absurd failed ((usable_iff_of_read ⟨_, read⟩).mp (usable other earlier) otherFault)
  · rcases List.mem_cons.mp later with rfl | later
    · exact List.le_refl _
    · have ordered := (List.pairwise_append.mp located.sorted).2.1
      exact List.le_of_lt ((List.pairwise_cons.mp ordered).1 other later)

theorem FirstFailure.usable {done left : List SourceFile}
    (located : Source.Located fs home request.sourceDir request.vocabulary (done ++ source :: left))
    (first : FirstFailure fs request home (done ++ source :: left) source fault)
    {earlier : SourceFile} (member : earlier ∈ done) : Usable fs request home earlier := by
  have among : earlier ∈ done ++ source :: left := List.mem_append_left _ member
  obtain ⟨_, _, _, -, -, read⟩ := Source.read_of_located located among
  apply (usable_iff_of_read ⟨_, read⟩).mpr
  intro other failed
  -- A source before this one that failed would have a name at least as great, and it is smaller.
  have below := (List.pairwise_append.mp located.sorted).2.2 earlier member source List.mem_cons_self
  exact List.not_lt.mpr (first.least earlier among other failed) below

/-- Once the sources are located, reading fails with the first of their failures and in no other
way. -/
theorem readingFails_iff (opened : Source.openDirectory fs request.sourceDir = .ok home)
    (found : (Source.locate fs home request.sourceDir request.vocabulary).result = .ok sources) :
    ReadingFails fs request error ↔ ∃ source fault,
      FirstFailure fs request home sources source fault ∧
        Reports request.vocabulary source.name fault error := by
  have located := Source.locate_eq_ok_iff.mp found
  constructor
  · intro failed
    cases failed with
    | opening failed =>
      rw [opened] at failed
      cases failed
    | locating again failed =>
      cases opened.symm.trans again
      rw [found] at failed
      cases failed
    | @reading _ done left source _ again listed usable failed =>
      cases opened.symm.trans again
      cases found.symm.trans listed
      have member : source ∈ done ++ source :: left := by simp
      obtain ⟨_, _, _, -, -, read⟩ := Source.read_of_located located member
      rw [read] at failed
      cases failed
    | scanning again listed usable read nonempty failed =>
      cases opened.symm.trans again
      cases found.symm.trans listed
      exact ⟨_, _, firstFailure_of_usable located usable ⟨_, read, nonempty, failed⟩,
        reports_iff.mpr rfl⟩
  · rintro ⟨source, fault, first, reports⟩
    obtain rfl := reports_iff.mp reports
    obtain ⟨done, left, rfl⟩ := List.append_of_mem first.member
    obtain ⟨text, read, nonempty, failed⟩ := first.fails
    exact .scanning opened found (fun _ => first.usable located) read nonempty failed

/-- Where one of the sources fails to scan, reading fails. -/
theorem readingFails_of_failsScan (opened : Source.openDirectory fs request.sourceDir = .ok home)
    (found : (Source.locate fs home request.sourceDir request.vocabulary).result = .ok sources)
    (member : source ∈ sources) (fails : FailsScan fs request home source fault) :
    ∃ error, ReadingFails fs request error := by
  cases read : (plan fs request).result with
  | error error => exact ⟨error, plan_error_iff.mp read⟩
  | ok planned =>
    simp only [plan_result, bind_eq_ok_iff] at read
    obtain ⟨_, again, _, listed, _, prepared, -⟩ := read
    cases opened.symm.trans again
    cases found.symm.trans listed
    obtain ⟨verdict, -, done⟩ := exists_of_forall₂ (Logged.forEach_ok_iff.mp prepared) member
    obtain ⟨text, known, -⟩ := id fails
    exact absurd fails ((usable_iff_of_read ⟨text, known⟩).mp (usable_iff.mpr ⟨verdict, done⟩) fault)

theorem firstFailure_relisted (relisted : Relisted fs after) :
    FirstFailure after request home sources source fault ↔
      FirstFailure fs request home sources source fault := by
  have same : FailsScan after request home = FailsScan fs request home := by
    funext source fault
    rw [FailsScan, FailsScan, relisted.read]
  constructor
  · rintro ⟨member, fails, least⟩
    rw [same] at fails least
    exact ⟨member, fails, least⟩
  · rintro ⟨member, fails, least⟩
    rw [← same] at fails least
    exact ⟨member, fails, least⟩

/-- What a run tells of its sources, once they are located. -/
structure ReportsFirst (fs : FileSystem) (request : Request) (home : Location)
    (sources : List SourceFile) : Prop where
  /-- Each source is read, as the file that it was found at. -/
  read : ∀ source ∈ sources, ∃ place content written,
    Source.FoundAt fs home source place ∧ fs.get? place = some (.file content written) ∧
    Source.read fs home source = .ok (Text.withoutReturns (Utf8.decode content))
  /-- Nothing but the markers of a source stops the run before it writes. -/
  only : ∀ error, (plan fs request).result = .error error → IsMarkerFailure error
  fails_iff : (∃ error, IsMarkerFailure error ∧ (generate fs request).result = .error error) ↔
    ∃ source ∈ sources, ∃ fault, FailsScan fs request home source fault
  first : ∀ relisted, Relisted fs relisted → ∀ error, IsMarkerFailure error →
    ((generate relisted request).result = .error error ↔ ∃ source fault,
      FirstFailure fs request home sources source fault ∧
        Reports request.vocabulary source.name fault error)

/-- **The first failure is reported.** Once the sources are located, all of them can be read, linked
or not. The run fails over a marker exactly where a source with text fails to scan, and it reports
the failing source whose name is least by bytes, in whatever order the directory is listed. -/
theorem generate_reports_first (opened : Source.openDirectory fs request.sourceDir = .ok home)
    (found : (Source.locate fs home request.sourceDir request.vocabulary).result = .ok sources) :
    ReportsFirst fs request home sources := by
  have fails_iff {error : Error} : ReadingFails fs request error ↔ ∃ source fault,
      FirstFailure fs request home sources source fault ∧
        Reports request.vocabulary source.name fault error := readingFails_iff opened found
  have only {error : Error} (failed : ReadingFails fs request error) : IsMarkerFailure error := by
    obtain ⟨_, _, -, reports⟩ := fails_iff.mp failed
    exact reports.isMarkerFailure
  constructor
  · intro source member
    exact Source.read_of_located (Source.locate_eq_ok_iff.mp found) member
  · intro error failed
    exact only (plan_error_iff.mp failed)
  · constructor
    · rintro ⟨error, marker, failed⟩
      obtain ⟨source, fault, first, -⟩ := fails_iff.mp ((generate_markerFailure_iff marker).mp failed)
      exact ⟨source, first.member, fault, first.fails⟩
    · rintro ⟨source, member, fault, fails⟩
      obtain ⟨error, failed⟩ := readingFails_of_failsScan opened found member fails
      exact ⟨error, only failed, (generate_of_readingFails failed).1⟩
  · intro relisted same error marker
    rw [generate_markerFailure_iff marker, readingFails_iff ((same.openDirectory _).trans opened)
      (same.locate.mpr found)]
    exact exists₂_congr fun source fault => and_congr_left' (firstFailure_relisted same)

/-- An empty source and, after it in order, two that fail. -/
def twoFaults : FileSystem :=
  let home := [Utf8.bytes "s"]
  (((FileSystem.empty.set home .directory).setFile (home ++ [Utf8.bytes "a"]) []).setFile
    (home ++ [Utf8.bytes "b"]) (Utf8.bytes "C()")).setFile (home ++ [Utf8.bytes "c"]) (Utf8.bytes "x")

/-- Listed from its last entry to its first, the directory makes the same source be reported. -/
theorem twoFaults_reported :
    (generate twoFaults sourceRequest).result = .error (.blankSuiteName "b" "C") ∧
      (generate twoFaults.turned sourceRequest).result = .error (.blankSuiteName "b" "C") := by
  let sources : List SourceFile := [⟨"a", "s/a", false⟩, ⟨"b", "s/b", false⟩, ⟨"c", "s/c", false⟩]
  have told : ReportsFirst twoFaults sourceRequest [Utf8.bytes "s"] sources :=
    generate_reports_first (by cbv) (by cbv)
  have empty : Source.read twoFaults [Utf8.bytes "s"] ⟨"a", "s/a", false⟩ = .ok [] := by cbv
  have first : FirstFailure twoFaults sourceRequest [Utf8.bytes "s"] sources ⟨"b", "s/b", false⟩
      .blankSuiteName := by
    refine ⟨by simp [sources], ⟨"C()".toList, by cbv, by decide, by cbv⟩, ?_⟩
    intro other member fault failed
    simp only [sources, List.mem_cons, List.not_mem_nil, or_false] at member
    rcases member with rfl | rfl | rfl
    · obtain ⟨text, read, nonempty, -⟩ := failed
      exact absurd (Except.ok.inj (read.symm.trans empty)) nonempty
    · exact List.le_refl _
    · decide
  have reported {relisted : FileSystem} (same : Relisted twoFaults relisted) :=
    (told.first relisted same _ .blankSuiteName).mpr ⟨_, _, first, .blankSuiteName⟩
  exact ⟨reported (.refl _), reported (.turned _)⟩

end Registrar.Generate
