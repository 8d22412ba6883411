import Mathlib
import Registrar.Proofs.Scan.Reference
import Registrar.Proofs.Text.Boundary

/-! The scanner, line by line. With markers that fit on a line, what it gives depends on the lines
that hold a marker and on nothing else. -/
namespace Registrar.Scan
open Text

/-- The markers that the scanner looks for. -/
def soughtMarkers (vocabulary : Vocabulary) : List (List Char) :=
  [vocabulary.namespaceMarker.toList, vocabulary.suiteMarker.toList, vocabulary.testMarker.toList]

def bearsMarker (vocabulary : Vocabulary) (line : List Char) : Bool :=
  (soughtMarkers vocabulary).any fun marker => decide (marker <:+: line)

/-- The lines of a text that hold at least one of the markers, in order. -/
def markerLines (vocabulary : Vocabulary) (text : List Char) : List (List Char) :=
  (text.splitOn '\n').filter (bearsMarker vocabulary)

/-- Each marker has a character, and none has a line feed. -/
def FitOnLine (vocabulary : Vocabulary) : Prop :=
  ∀ marker ∈ soughtMarkers vocabulary, marker ≠ [] ∧ '\n' ∉ marker

/-- The arguments of the occurrences of a marker. -/
def argumentsOf (marker text : List Char) : List (List Char) :=
  (occurrences marker text).map line

/-- The argument of the first suite marker in some lines, and the arguments of the test markers
that follow it, on its line and below. -/
def opening? (suite test : List Char) : List (List Char) → Option (List Char × List (List Char))
  | [] => none
  | line :: lines =>
    match after? suite line with
    | some rest => some (rest, occurrences test rest ++ lines.flatMap (occurrences test))
    | none => opening? suite test lines

def strippedName (argument : List Char) : String :=
  String.ofList (trimWith isWrapping argument)

/-- What is declared by the lines of a source. -/
def scanLines (vocabulary : Vocabulary) (override : Option String) (lines : List (List Char)) :
    Except ScanError Scanned :=
  let declared := (lines.flatMap (occurrences vocabulary.namespaceMarker.toList)).head?.map
    fun argument => String.ofList (trim argument)
  match (chosenNamespace? override).or (declared.filter (· != "")) with
  | none => .error .missingNamespace
  | some library =>
    match opening? vocabulary.suiteMarker.toList vocabulary.testMarker.toList lines with
    | none => .error .missingSuiteDeclaration
    | some (suite, tests) =>
      let names := tests.map strippedName
      if strippedName suite = "" then .error .blankSuiteName
      else .ok {
        extraction := { library, suite := strippedName suite, tests := names.filter (· != "") }
        unnamed := names.countP (· == "") }

variable {vocabulary : Vocabulary} {marker suite test text front : List Char}

theorem plain_of_occurrence {rest : List Char} (plain : '\n' ∉ text)
    (found : rest ∈ occurrences marker text) : '\n' ∉ rest :=
  fun feed => plain ((occurrences_suffix found).subset feed)

theorem argumentsOf_of_plain (plain : '\n' ∉ text) :
    argumentsOf marker text = occurrences marker text := by
  have whole : ∀ rest ∈ occurrences marker text, line rest = rest := by
    intro rest found
    exact line_of_plain (plain_of_occurrence plain found)
  rw [argumentsOf, List.map_congr_left whole, List.map_id']

theorem argumentsOf_append_feed (fits : '\n' ∉ marker) (plain : '\n' ∉ front) (back : List Char) :
    argumentsOf marker (front ++ '\n' :: back) =
      occurrences marker front ++ argumentsOf marker back := by
  have whole : ∀ rest ∈ occurrences marker front, line (rest ++ '\n' :: back) = rest := by
    intro rest found
    exact line_append_feed (plain_of_occurrence plain found) back
  rw [argumentsOf, occurrences_append_cons fits, List.map_append, List.map_map, argumentsOf]
  rw [List.map_congr_left (f := line ∘ (· ++ '\n' :: back)) whole, List.map_id']

/-- Arguments are found on each line for itself. -/
theorem argumentsOf_eq_flatMap (fits : '\n' ∉ marker) (text : List Char) :
    argumentsOf marker text = (text.splitOn '\n').flatMap (occurrences marker) := by
  induction text using lines_induction with
  | last line plain =>
    rw [argumentsOf_of_plain plain, List.splitOn_eq_singleton plain, List.flatMap_singleton]
  | next line rest plain ih =>
    rw [argumentsOf_append_feed fits plain, List.splitOn_append_cons_self_of_not_mem plain,
      List.flatMap_cons, ih]

theorem opening?_splitOn (suiteFits : '\n' ∉ suite) (testFits : '\n' ∉ test) (text : List Char) :
    opening? suite test (text.splitOn '\n') =
      (after? suite text).map fun rest => (line rest, argumentsOf test rest) := by
  induction text using lines_induction with
  | last only plain =>
    rw [List.splitOn_eq_singleton plain, opening?]
    cases found : after? suite only with
    | none => rfl
    | some rest =>
      have plainRest := plain_of_occurrence plain (List.mem_of_head? found)
      simp only [Option.map_some, List.flatMap_nil, List.append_nil, line_of_plain plainRest,
        argumentsOf_of_plain plainRest]
  | next first rest plain ih =>
    rw [List.splitOn_append_cons_self_of_not_mem plain, opening?, after?_append_cons suiteFits]
    cases found : after? suite first with
    | none => exact ih
    | some behind =>
      have plainBehind := plain_of_occurrence plain (List.mem_of_head? found)
      simp only [Option.map_some, Option.some_or, line_append_feed plainBehind,
        argumentsOf_append_feed testFits plainBehind, ← argumentsOf_eq_flatMap testFits]

theorem FitOnLine.scan_eq_scanLines (fits : FitOnLine vocabulary) (override : Option String)
    (text : List Char) :
    scan vocabulary override text = scanLines vocabulary override (text.splitOn '\n') := by
  simp only [FitOnLine, soughtMarkers, List.forall_mem_cons] at fits
  obtain ⟨⟨-, library⟩, ⟨-, suite⟩, ⟨-, test⟩, -⟩ := fits
  rw [scan_eq, scanLines, ← argumentsOf_eq_flatMap library, opening?_splitOn suite test]
  simp only [declaredNamespace?, after?, argumentsOf, List.head?_map, Option.map_map,
    Function.comp_def]
  cases (occurrences vocabulary.suiteMarker.toList text).head? with
  | none => rfl
  | some rest => simp only [Option.map_some, testNames, List.map_map, Function.comp_def]; rfl

theorem flatMap_filter_of_nil {keeps : List Char → Bool} {found : List Char → List (List Char)}
    (dropped : ∀ line, keeps line = false → found line = []) (lines : List (List Char)) :
    (lines.filter keeps).flatMap found = lines.flatMap found := by
  induction lines with
  | nil => rfl
  | cons line lines ih =>
    cases kept : keeps line with
    | true => rw [List.filter_cons_of_pos kept, List.flatMap_cons, List.flatMap_cons, ih]
    | false =>
      rw [List.filter_cons_of_neg (by simp [kept]), List.flatMap_cons, dropped line kept,
        List.nil_append, ih]

theorem opening?_of_absent {line : List Char} (absent : occurrences suite line = [])
    (lines : List (List Char)) :
    opening? suite test (line :: lines) = opening? suite test lines := by
  rw [opening?, after?, absent, List.head?_nil]

theorem opening?_eq_none {lines : List (List Char)}
    (absent : ∀ line ∈ lines, occurrences suite line = []) : opening? suite test lines = none := by
  induction lines with
  | nil => rfl
  | cons line lines ih =>
    rw [List.forall_mem_cons] at absent
    rw [opening?_of_absent absent.1, ih absent.2]

theorem opening?_filter {keeps : List Char → Bool}
    (noSuite : ∀ line, keeps line = false → occurrences suite line = [])
    (noTest : ∀ line, keeps line = false → occurrences test line = []) (lines : List (List Char)) :
    opening? suite test (lines.filter keeps) = opening? suite test lines := by
  induction lines with
  | nil => rfl
  | cons line lines ih =>
    cases kept : keeps line with
    | true => rw [List.filter_cons_of_pos kept, opening?, opening?, ih, flatMap_filter_of_nil noTest]
    | false =>
      rw [List.filter_cons_of_neg (by simp [kept]), opening?_of_absent (noSuite line kept), ih]

theorem bearsMarker_iff : bearsMarker vocabulary text = true ↔
    ∃ marker ∈ soughtMarkers vocabulary, marker <:+: text := by
  simp [bearsMarker]

theorem bearsMarker_eq_false_iff : bearsMarker vocabulary text = false ↔
    ∀ marker ∈ soughtMarkers vocabulary, ¬ marker <:+: text := by
  simp [bearsMarker]

theorem FitOnLine.bearsMarker_nil (fits : FitOnLine vocabulary) :
    bearsMarker vocabulary [] = false := by
  rw [bearsMarker_eq_false_iff]
  intro marker known inside
  exact (fits marker known).1 (List.infix_nil.mp inside)

theorem occurrences_of_unmarked (known : marker ∈ soughtMarkers vocabulary)
    (bare : bearsMarker vocabulary text = false) : occurrences marker text = [] :=
  occurrences_of_not_infix (bearsMarker_eq_false_iff.mp bare marker known)

theorem FitOnLine.argumentsOf_eq_markerLines (fits : FitOnLine vocabulary)
    (known : marker ∈ soughtMarkers vocabulary) (text : List Char) :
    argumentsOf marker text = (markerLines vocabulary text).flatMap (occurrences marker) := by
  rw [argumentsOf_eq_flatMap (fits marker known).2, markerLines, flatMap_filter_of_nil]
  exact fun _ => occurrences_of_unmarked known

/-- Lines without a marker declare nothing. -/
theorem scanLines_filter (vocabulary : Vocabulary) (override : Option String)
    (lines : List (List Char)) :
    scanLines vocabulary override (lines.filter (bearsMarker vocabulary)) =
      scanLines vocabulary override lines := by
  have absent : ∀ marker ∈ soughtMarkers vocabulary, ∀ line,
      bearsMarker vocabulary line = false → occurrences marker line = [] :=
    fun marker known line => occurrences_of_unmarked known
  simp only [soughtMarkers, List.forall_mem_cons] at absent
  obtain ⟨library, suite, test, -⟩ := absent
  rw [scanLines, scanLines, flatMap_filter_of_nil library, opening?_filter suite test]

theorem FitOnLine.scan_eq_markerLines (fits : FitOnLine vocabulary) (override : Option String)
    (text : List Char) :
    scan vocabulary override text = scanLines vocabulary override (markerLines vocabulary text) := by
  rw [fits.scan_eq_scanLines, markerLines, scanLines_filter]

/-- **Lines without a marker do not matter.** Two texts with the same marker lines are scanned with
the same result and the same warnings, and so have the same companion. -/
theorem scan_of_same_markerLines (request : Request) (file : String) {text other : List Char}
    (fits : FitOnLine request.vocabulary)
    (same : markerLines request.vocabulary text = markerLines request.vocabulary other) :
    scan request.vocabulary request.namespaceOverride text =
        scan request.vocabulary request.namespaceOverride other ∧
      Generate.buildArtifact request file text = Generate.buildArtifact request file other := by
  have scanned : scan request.vocabulary request.namespaceOverride text =
      scan request.vocabulary request.namespaceOverride other := by
    calc scan request.vocabulary request.namespaceOverride text
      _ = scanLines request.vocabulary request.namespaceOverride (markerLines request.vocabulary text) := by
        rw [fits.scan_eq_scanLines, markerLines, scanLines_filter]
      _ = scan request.vocabulary request.namespaceOverride other := by
        rw [same, fits.scan_eq_scanLines, markerLines, scanLines_filter]
  exact ⟨scanned, by simp only [Generate.buildArtifact, scanned]⟩

def tidySource : List Char :=
  "#define __HTEST_LIB_NAME lib\nHTEST_CLASS(Map)\n\x7b\n\tHTEST_FUNCTION(insert)\n\x7d\n".toList

/-- The same test class, with other lines around the marker lines and no line feed at the end. -/
def untidySource : List Char :=
  "// maps\n#define __HTEST_LIB_NAME lib\nint i;\n\nHTEST_CLASS(Map)\n\tHTEST_FUNCTION(insert)".toList

theorem tidySource_scan :
    FitOnLine Profile.htest.vocabulary ∧
    markerLines Profile.htest.vocabulary tidySource =
      markerLines Profile.htest.vocabulary untidySource ∧
    scan Profile.htest.vocabulary none tidySource = scan Profile.htest.vocabulary none untidySource ∧
    Generate.buildArtifact ⟨"s", none, Profile.htest.vocabulary⟩ "Map" tidySource =
      Generate.buildArtifact ⟨"s", none, Profile.htest.vocabulary⟩ "Map" untidySource := by
  have fits : FitOnLine Profile.htest.vocabulary := by
    unfold FitOnLine
    decide +kernel
  have same : markerLines Profile.htest.vocabulary tidySource =
      markerLines Profile.htest.vocabulary untidySource := by decide +kernel
  exact ⟨fits, same, scan_of_same_markerLines ⟨"s", none, Profile.htest.vocabulary⟩ "Map" fits same⟩

end Registrar.Scan
