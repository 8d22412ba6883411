import Mathlib
import Registrar.Proofs.Companion.Injective
import Registrar.Proofs.Generate.Delivery
import Registrar.Proofs.Generate.Failure
import Registrar.Proofs.Scan.Reference
import Registrar.Proofs.Source.Gathering

/-! A library that is named beside the sources. Unless the name is blank it stands above every
namespace marker: the marker is not looked at, and cannot be missed. A blank name is as good as none,
and the settings and the scanner agree on which names are blank. -/
namespace Registrar.Scan
open Text

variable {vocabulary : Vocabulary} {override other : Option String} {given : String}
  {text : List Char}

/-- Two results of a scan that differ in the library at most: the same fault, or the same suite, the
same tests and as many tests without a name. -/
inductive SameButLibrary : Except ScanError Scanned → Except ScanError Scanned → Prop
  | failed {fault : ScanError} : SameButLibrary (.error fault) (.error fault)
  | declared {library other suite : String} {tests : List String} {unnamed : Nat} :
      SameButLibrary (.ok ⟨⟨library, suite, tests⟩, unnamed⟩) (.ok ⟨⟨other, suite, tests⟩, unnamed⟩)

theorem SameButLibrary.warnings {first second : Except ScanError Scanned} {marker : String}
    (same : SameButLibrary first second) : warnings marker first = warnings marker second := by
  cases same <;> rfl

theorem chosenNamespace?_of_blank (blank : Blank given) : chosenNamespace? (some given) = none := by
  simp [chosenNamespace?, trimmed_eq_empty_iff.mpr blank]

theorem chosenNamespace?_of_named (named : ¬ Blank given) :
    chosenNamespace? (some given) = some (trimmed given) := by
  have nonempty : trimmed given ≠ "" := fun empty => named (trimmed_eq_empty_iff.mp empty)
  simp [chosenNamespace?, nonempty]

/-- To trim a name and drop a blank one before the scan changes nothing for it. -/
theorem chosenNamespace?_namespaceOverride (settings : Config.Settings) :
    chosenNamespace? settings.namespaceOverride = chosenNamespace? settings.libName := by
  rw [Config.Settings.namespaceOverride]
  cases settings.libName with
  | none => rfl
  | some given =>
    by_cases empty : trimmed given = ""
    · rw [chosenNamespace?, chosenNamespace?, Option.map_some, empty]
      rfl
    · have kept : (some (trimmed given)).filter (fun name => !name.isEmpty) = some (trimmed given) :=
        Option.filter_some_pos (by simpa using empty)
      rw [Option.map_some, kept, chosenNamespace?, chosenNamespace?, Option.map_some, trimmed_trimmed,
        Option.map_some]

theorem scan_of_same_chosen (same : chosenNamespace? override = chosenNamespace? other) :
    scan vocabulary override text = scan vocabulary other text := by
  rw [scan_eq, scan_eq, same]

/-- With a name given, only what follows the suite marker is looked at. -/
theorem scan_of_named (vocabulary : Vocabulary) (text : List Char) (named : ¬ Blank given) :
    scan vocabulary (some given) text =
      match after? vocabulary.suiteMarker.toList text with
      | none => .error .missingSuiteDeclaration
      | some rest =>
        if name rest = "" then .error .blankSuiteName
        else .ok {
          extraction := {
            library := trimmed given
            suite := name rest
            tests := (testNames vocabulary.testMarker rest).filter (· != "") }
          unnamed := (testNames vocabulary.testMarker rest).countP (· == "") } := by
  rw [scan_eq, chosenNamespace?_of_named named]
  rfl

/-- How a name given beside a source takes part in its scan. -/
structure Overridden (given : String) (vocabulary : Vocabulary) (text : List Char) : Prop where
  blank : Blank given → scan vocabulary (some given) text = scan vocabulary none text
  /-- The namespace marker may be any: the result is the same, and so are the warnings. -/
  unseen : ¬ Blank given → ∀ marker,
    scan { vocabulary with namespaceMarker := marker } (some given) text =
      scan vocabulary (some given) text
  named : ¬ Blank given → scan vocabulary (some given) text ≠ .error .missingNamespace
  library : ¬ Blank given → ∀ scanned, scan vocabulary (some given) text = .ok scanned →
    scanned.extraction.library = trimmed given
  /-- But for the library, all is as without the name, unless the marker alone names no library. -/
  agrees : ¬ Blank given → scan vocabulary none text ≠ .error .missingNamespace →
    SameButLibrary (scan vocabulary (some given) text) (scan vocabulary none text) ∧
      warnings vocabulary.testMarker (scan vocabulary (some given) text) =
        warnings vocabulary.testMarker (scan vocabulary none text)

theorem sameButLibrary_of_named (named : ¬ Blank given)
    (found : scan vocabulary none text ≠ .error .missingNamespace) :
    SameButLibrary (scan vocabulary (some given) text) (scan vocabulary none text) := by
  rw [scan_of_named vocabulary text named]
  rw [scan_eq] at found ⊢
  cases library : (chosenNamespace? none).or
      (declaredNamespace? vocabulary.namespaceMarker text) with
  | none => simp [library] at found
  | some library =>
    cases after? vocabulary.suiteMarker.toList text with
    | none => exact .failed
    | some rest =>
      by_cases empty : name rest = ""
      · simp only [empty, ↓reduceIte]
        exact .failed
      · simp only [empty, ↓reduceIte]
        exact .declared

theorem overridden (given : String) (vocabulary : Vocabulary) (text : List Char) :
    Overridden given vocabulary text := by
  constructor
  · intro blank
    exact scan_of_same_chosen (chosenNamespace?_of_blank blank)
  · intro named marker
    rw [scan_of_named _ text named, scan_of_named _ text named]
  · intro named
    rw [scan_of_named vocabulary text named]
    split
    · simp
    · split <;> simp
  · intro named scanned read
    rw [scan_of_named vocabulary text named] at read
    split at read
    · cases read
    · split at read <;> cases read
      rfl
  · intro named found
    have same := sameButLibrary_of_named named found
    exact ⟨same, same.warnings⟩

end Registrar.Scan

namespace Registrar.Generate
open Scan Text

variable {fs : FileSystem} {request : Request} {artifact : Artifact} {planned : Plan} {given : String}

/-- A run renders the artefact of a source that it has located, whatever becomes of the others. -/
def Renders (fs : FileSystem) (request : Request) (artifact : Artifact) : Prop :=
  ∃ home sources source, Source.openDirectory fs request.sourceDir = .ok home ∧
    (Source.locate fs home request.sourceDir request.vocabulary).result = .ok sources ∧
    source ∈ sources ∧ (prepare fs home request source).result = .ok (some artifact)

/-- All that a run writes it has rendered. -/
theorem renders_of_plan (read : (plan fs request).result = .ok planned)
    (member : artifact ∈ planned.artifacts) : Renders fs request artifact := by
  simp only [plan_result, bind_eq_ok_iff, pure, Except.pure, Except.ok.injEq] at read
  obtain ⟨home, opened, sources, located, verdicts, prepared, rfl⟩ := read
  obtain ⟨verdict, among, kept⟩ := List.mem_filterMap.mp member
  obtain rfl : verdict = some artifact := kept
  obtain ⟨source, inside, done⟩ := exists_of_forall₂ (Logged.forEach_ok_iff.mp prepared).flip among
  exact ⟨home, sources, source, opened, located, inside, done⟩

theorem content_opens (vocabulary : Vocabulary) (extraction : Extraction) :
    ∃ rest, Companion.content vocabulary extraction =
      "#define " ++ vocabulary.namespaceMarker ++ " " ++ extraction.library ++ "\n" ++ rest := by
  rw [Companion.content, Companion.declaration, List.append_assoc, List.append_assoc,
    List.append_assoc, List.singleton_append, Companion.lines_cons_append]
  exact ⟨_, rfl⟩

theorem content_of_renders (chosen : request.namespaceOverride = some given) (named : ¬ Blank given)
    (renders : Renders fs request artifact) : ∃ rest, artifact.content =
      "#define " ++ request.vocabulary.namespaceMarker ++ " " ++ trimmed given ++ "\n" ++ rest := by
  obtain ⟨home, _, source, -, -, -, prepared⟩ := renders
  obtain ⟨-, text, scanned, -, read, rfl⟩ := prepare_eq_ok_iff.mp prepared
  rw [chosen] at read
  rw [← (overridden given request.vocabulary text).library named scanned read]
  exact content_opens request.vocabulary scanned.extraction

/-- A missing namespace is what the scanner found missing: no stage but the scan reports it. -/
theorem scan_of_missingNamespace {file marker : String}
    (failed : ReadingFails fs request (.missingNamespace file marker)) :
    ∃ text, scan request.vocabulary request.namespaceOverride text = .error .missingNamespace := by
  generalize reported : Error.missingNamespace file marker = error at failed
  cases failed with
  | opening failed =>
    unfold Source.openDirectory at failed
    split at failed <;> cases failed <;> cases reported
  | locating _ failed =>
    obtain ⟨child, -, failed⟩ := Source.gather_error failed
    obtain ⟨_, _, rfl⟩ := Source.judge_error failed
    cases reported
  | reading _ _ _ failed =>
    unfold Source.read at failed
    split at failed <;> cases failed
    cases reported
  | @scanning _ _ _ _ text fault _ _ _ _ _ failed =>
    cases fault with
    | missingNamespace => exact ⟨text, failed⟩
    | missingSuiteDeclaration | blankSuiteName => cases reported

/-- **A library that is given beats every marker.** In a scan it stands for the namespace that the
source declares and changes nothing else; a blank one changes nothing at all, whether it is dropped
with the settings or by the scanner. So no run with a library misses a namespace, and every artefact
that it renders opens with that library. -/
theorem override_beats_markers :
    (∀ given vocabulary text, Overridden given vocabulary text) ∧
    (∀ (settings : Config.Settings) vocabulary text,
      scan vocabulary settings.namespaceOverride text = scan vocabulary settings.libName text) ∧
    ∀ fs request given, request.namespaceOverride = some given → ¬ Blank given →
      (∀ file marker, (generate fs request).result ≠ .error (.missingNamespace file marker)) ∧
      (∀ planned, (plan fs request).result = .ok planned →
        ∀ artifact ∈ planned.artifacts, Renders fs request artifact) ∧
      ∀ artifact, Renders fs request artifact → ∃ rest, artifact.content =
        "#define " ++ request.vocabulary.namespaceMarker ++ " " ++ trimmed given ++ "\n" ++ rest := by
  refine ⟨overridden, ?_, ?_⟩
  · intro settings vocabulary text
    exact scan_of_same_chosen (chosenNamespace?_namespaceOverride settings)
  · intro fs request given chosen named
    refine ⟨?_, fun _ read _ => renders_of_plan read, fun _ => content_of_renders chosen named⟩
    intro file marker failed
    have reading := readingFails_of_generate failed (by simp)
    obtain ⟨text, missing⟩ := scan_of_missingNamespace reading
    rw [chosen] at missing
    exact (overridden given request.vocabulary text).named named missing

/-- The marker stands behind the suite and names another library, and is not looked at; a tab and an
ideographic space are no library, so that the marker counts again. -/
theorem library_before_marker :
    scan terse (some "\t\u3000") "C(y)\nN x".toList = scan terse none "C(y)\nN x".toList ∧
    SameButLibrary (scan terse (some " l ") "C(y)\nN x".toList)
      (scan terse none "C(y)\nN x".toList) ∧
    ∃ artifact, Renders sourceTree sourceRequest artifact ∧
      ∃ rest, artifact.content = "#define N l\n" ++ rest := by
  obtain ⟨scans, -, runs⟩ := override_beats_markers
  have trims : trimmed " l " = "l" := by cbv
  have short : trimmed "l" = "l" := by cbv
  have blank : Blank "\t\u3000" := trimmed_eq_empty_iff.mp (by cbv)
  have named : ¬ Blank " l " := by simp [← trimmed_eq_empty_iff, trims]
  have found : scan terse none "C(y)\nN x".toList ≠ .error .missingNamespace := by
    have read : scan terse none "C(y)\nN x".toList = .ok ⟨⟨"x", "y", []⟩, 0⟩ := by cbv
    intro failed
    cases read.symm.trans failed
  obtain ⟨-, renders, opens⟩ := runs sourceTree sourceRequest "l" rfl
    (by simp [← trimmed_eq_empty_iff, short])
  let content := "#define N l\n#include \"h\"\n\nC(y)\n\x7b\n\tT(f);\n\x7d\n\nB(y)\n\tR(y, f)\nE\n"
  let planned : Plan := ⟨[⟨"a", "s/a", false⟩, ⟨"b", "s/b", false⟩], 1, [⟨"b", "_b", content⟩]⟩
  have read : (plan sourceTree sourceRequest).result = .ok planned := by cbv
  have rendered := renders planned read ⟨"b", "_b", content⟩ (by simp [planned])
  have opening : "#define " ++ sourceRequest.vocabulary.namespaceMarker ++ " " ++ trimmed "l" ++ "\n" =
      "#define N l\n" := by rw [short]; rfl
  exact ⟨(scans _ _ _).blank blank, ((scans _ _ _).agrees named found).1, _, rendered,
    opening ▸ opens _ rendered⟩

end Registrar.Generate
