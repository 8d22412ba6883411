import Mathlib
import Registrar.Proofs.Output
import Registrar.Proofs.Scan.Reference
import Registrar.Proofs.Text.Boundary

/-! What a companion tells of its source. Each name in it stands between a text that the vocabulary
fixes and the end of a line, and the scanner gives no name with a line feed, so that the names can be
told from the text alone, in their order and number. -/
namespace Registrar.Companion
open Text

/-- No name is broken by a line feed. -/
structure Unbroken (extraction : Extraction) : Prop where
  library : '\n' ∉ extraction.library.toList
  suite : '\n' ∉ extraction.suite.toList
  tests : ∀ test ∈ extraction.tests, '\n' ∉ test.toList

/-- The scanner can give the extraction, on some text, without an override or with one on one
line. -/
def Extracted (extraction : Extraction) : Prop :=
  ∃ vocabulary override text unnamed, (∀ given ∈ override, '\n' ∉ String.toList given) ∧
    scan vocabulary override text = .ok ⟨extraction, unnamed⟩

variable {vocabulary : Vocabulary} {first second : Extraction} {front back name other : String}
  {names others : List String} {rest otherRest : String}

theorem plain_trimWith {drops : Char → Bool} {text : List Char} (plain : '\n' ∉ text) :
    '\n' ∉ trimWith drops text := by
  obtain ⟨front, back, parts, -, -⟩ := (strips_trimWith drops text).around
  intro feed
  apply plain
  rw [parts]
  simp [feed]

theorem plain_name (argument : List Char) : '\n' ∉ (Scan.name argument).toList := by
  rw [Scan.name, String.toList_ofList]
  exact plain_trimWith (line_no_feed argument)

theorem Extracted.unbroken (extracted : Extracted first) : Unbroken first := by
  obtain ⟨vocabulary, override, text, unnamed, plain, scanned⟩ := extracted
  rw [Scan.scan_eq] at scanned
  split at scanned
  · cases scanned
  rename_i library taken
  split at scanned
  · cases scanned
  split at scanned
  · cases scanned
  cases scanned
  refine ⟨?_, plain_name _, ?_⟩
  · rcases Option.or_eq_some_iff.mp taken with chosen | ⟨-, declared⟩
    · simp only [Scan.chosenNamespace?, Option.filter_eq_some_iff, Option.map_eq_some_iff] at chosen
      obtain ⟨⟨given, present, rfl⟩, -⟩ := chosen
      rw [trimmed, String.toList_ofList]
      exact plain_trimWith (plain given present)
    · simp only [Scan.declaredNamespace?, Option.filter_eq_some_iff, Option.map_eq_some_iff]
        at declared
      obtain ⟨⟨argument, -, rfl⟩, -⟩ := declared
      rw [String.toList_ofList]
      exact plain_trimWith (line_no_feed argument)
  · intro test member
    obtain ⟨argument, -, rfl⟩ := List.mem_map.mp (List.mem_of_mem_filter member)
    exact plain_name argument

/-! ### Lines with a name -/

theorem lines_cons_append (text : String) (texts : List String) (rest : String) :
    lines (text :: texts) ++ rest = text ++ "\n" ++ (lines texts ++ rest) :=
  String.append_assoc

theorem lines_nil_append (rest : String) : lines [] ++ rest = rest :=
  String.empty_append

theorem lines_append (texts more : List String) : lines (texts ++ more) = lines texts ++ lines more := by
  induction texts with
  | nil => exact (lines_nil_append _).symm
  | cons text texts ih =>
    rw [lines_cons_append, ← ih]
    rfl

/-- A name that is followed by the rest of its line is told from the text. -/
theorem name_of_line (plain : '\n' ∉ name.toList) (otherPlain : '\n' ∉ other.toList)
    (plainBack : '\n' ∉ back.toList)
    (same : front ++ name ++ back ++ "\n" ++ rest = front ++ other ++ back ++ "\n" ++ otherRest) :
    name = other ∧ rest = otherRest := by
  simp only [String.append_assoc, String.append_right_inj] at same
  have texts : name.toList ++ back.toList ++ '\n' :: rest.toList =
      other.toList ++ back.toList ++ '\n' :: otherRest.toList := by
    simpa using congrArg String.toList same
  have plainLine : '\n' ∉ name.toList ++ back.toList := by simp [plain, plainBack]
  have otherLine : '\n' ∉ other.toList ++ back.toList := by simp [otherPlain, plainBack]
  have ends := congrArg line texts
  rw [line_append_feed plainLine, line_append_feed otherLine, List.append_cancel_right_eq] at ends
  rw [ends, List.append_cancel_left_eq, List.cons.injEq] at texts
  exact ⟨String.toList_inj.mp ends, String.toList_inj.mp texts.2⟩

/-- Names on lines of one form, one below the other, are told from a text that goes on with
something else than such a line: their lines begin with a tab, and what follows does not. -/
theorem names_of_lines (plainBack : '\n' ∉ back.toList)
    (tabbed : front.toList.head? = some '\t')
    (ends : rest.toList.head? ≠ some '\t') (otherEnds : otherRest.toList.head? ≠ some '\t')
    (plain : ∀ name ∈ names, '\n' ∉ name.toList) (otherPlain : ∀ name ∈ others, '\n' ∉ name.toList)
    (same : lines (names.map fun name => front ++ name ++ back) ++ rest =
      lines (others.map fun name => front ++ name ++ back) ++ otherRest) : names = others := by
  have begins (name : String) (texts : List String) (rest : String) :
      (lines ((front ++ name ++ back) :: texts) ++ rest).toList.head? = some '\t' := by
    simp [lines_cons_append, List.head?_append, tabbed]
  induction names generalizing others with
  | nil =>
    cases others with
    | nil => rfl
    | cons name others =>
      have head := begins name (others.map fun name => front ++ name ++ back) otherRest
      rw [← List.map_cons (f := fun name => front ++ name ++ back), ← same] at head
      exact absurd (by rwa [List.map_nil, lines_nil_append] at head) ends
  | cons name names ih =>
    cases others with
    | nil =>
      have head := begins name (names.map fun name => front ++ name ++ back) rest
      rw [← List.map_cons (f := fun name => front ++ name ++ back), same] at head
      exact absurd (by rwa [List.map_nil, lines_nil_append] at head) otherEnds
    | cons other others =>
      rw [List.forall_mem_cons] at plain otherPlain
      rw [List.map_cons, List.map_cons, lines_cons_append, lines_cons_append] at same
      obtain ⟨rfl, below⟩ := name_of_line plain.1 otherPlain.1 plainBack same
      rw [ih plain.2 otherPlain.2 below]

/-! ### The two blocks -/

def declaredTests (vocabulary : Vocabulary) (tests : List String) : String :=
  lines (tests.map fun test => "\t" ++ vocabulary.testMarker ++ "(" ++ test ++ ");")

theorem declaration_append (vocabulary : Vocabulary) (extraction : Extraction) (rest : String) :
    declaration vocabulary extraction ++ rest =
      "#define " ++ vocabulary.namespaceMarker ++ " " ++ extraction.library ++ "" ++ "\n" ++
        (lines (headerLines vocabulary ++ [""]) ++ vocabulary.suiteMarker ++ "(" ++
          extraction.suite ++ ")" ++ "\n" ++
          ("\x7b\n" ++ (declaredTests vocabulary extraction.tests ++ ("\x7d\n\n" ++ rest)))) := by
  simp only [declaration, declaredTests, lines_append, List.append_assoc]
  simp only [lines, List.foldr_cons, List.foldr_nil, String.append_assoc, String.append_empty,
    String.empty_append]
  rfl

/-- A declaration block tells its extraction, whatever follows it. -/
theorem extraction_of_declaration (left : Unbroken first) (right : Unbroken second)
    (same : declaration vocabulary first ++ rest = declaration vocabulary second ++ otherRest) :
    first = second := by
  rw [declaration_append, declaration_append] at same
  obtain ⟨library, below⟩ := name_of_line left.library right.library (by simp) same
  obtain ⟨suite, below⟩ := name_of_line left.suite right.suite (by simp) below
  have tests := names_of_lines (by simp) (by simp) (by simp) (by simp) left.tests right.tests
    ((String.append_right_inj _).mp below)
  obtain ⟨_, _, _⟩ := first
  obtain ⟨_, _, _⟩ := second
  simp only at library suite tests
  rw [library, suite, tests]

theorem registration_eq (vocabulary : Vocabulary) (suite : String) (tests : List String) :
    registration vocabulary suite tests =
      vocabulary.runClassBegin ++ "(" ++ suite ++ ")" ++ "\n" ++
        (lines (tests.map fun test =>
          "\t" ++ vocabulary.runMethod ++ "(" ++ suite ++ ", " ++ test ++ ")") ++
          (vocabulary.runClassEnd ++ "\n")) := by
  simp only [registration, lines_append]
  simp only [lines, List.foldr_cons, List.foldr_nil, String.append_assoc, String.append_empty]

/-- A registration block tells its suite and its tests. Its last line may have any form, that of the
lines before it too, but it is the same in both blocks. -/
theorem names_of_registration (left : Unbroken first) (right : Unbroken second)
    (same : registration vocabulary first.suite first.tests =
      registration vocabulary second.suite second.tests) :
    first.suite = second.suite ∧ first.tests = second.tests := by
  rw [registration_eq, registration_eq] at same
  obtain ⟨suite, below⟩ := name_of_line left.suite right.suite (by simp) same
  rw [suite, String.append_left_inj, ← String.append_left_inj ""] at below
  exact ⟨suite, names_of_lines (by simp) (by simp) (by simp) (by simp) left.tests right.tests below⟩

/-- **Rendering loses nothing.** Of two extractions that the scanner can give, no two share a
companion, nor already its declaration block, and the registration blocks differ unless the suites
and the tests are the same. So a companion that is found unchanged was made of the same names. -/
theorem extraction_of_companion (vocabulary : Vocabulary) (left : Extracted first)
    (right : Extracted second) :
    (content vocabulary first = content vocabulary second → first = second) ∧
    (declaration vocabulary first = declaration vocabulary second → first = second) ∧
    (registration vocabulary first.suite first.tests =
        registration vocabulary second.suite second.tests →
      first.suite = second.suite ∧ first.tests = second.tests) ∧
    ∀ fs directory root file after,
      FileSystem.readFile fs (.beneath directory) (Utf8.bytes file) =
        .ok (Utf8.bytes (content vocabulary first)) →
      Output.writeIfChanged fs directory root file (content vocabulary second) =
        .ok (after, .unchanged) → first = second := by
  have fromContent (same : content vocabulary first = content vocabulary second) :
      first = second :=
    extraction_of_declaration left.unbroken right.unbroken same
  refine ⟨fromContent, ?_, names_of_registration left.unbroken right.unbroken, ?_⟩
  · intro same
    rw [← String.append_left_inj ""] at same
    exact extraction_of_declaration left.unbroken right.unbroken same
  · intro fs directory root file after read unchanged
    have held := Output.readFile_of_unchanged unchanged
    rw [read, Except.ok.injEq] at held
    exact fromContent (Utf8.bytes_injective held)

/-- Names with commas: the suite and its test, put in a row, read the same in both. -/
theorem commas_told_apart :
    Extracted ⟨"l", "A", ["b, c"]⟩ ∧ Extracted ⟨"l", "A, b", ["c"]⟩ ∧
    content Profile.htest.vocabulary ⟨"l", "A", ["b, c"]⟩ ≠
      content Profile.htest.vocabulary ⟨"l", "A, b", ["c"]⟩ ∧
    registration Profile.htest.vocabulary "A" ["b, c"] ≠
      registration Profile.htest.vocabulary "A, b" ["c"] := by
  have left : Extracted ⟨"l", "A", ["b, c"]⟩ :=
    ⟨Profile.htest.vocabulary, some "l", "HTEST_CLASS(A)\nHTEST_FUNCTION(b, c)".toList, 0,
      by simp, by cbv⟩
  have right : Extracted ⟨"l", "A, b", ["c"]⟩ :=
    ⟨Profile.htest.vocabulary, some "l", "HTEST_CLASS(A, b)\nHTEST_FUNCTION(c)".toList, 0,
      by simp, by cbv⟩
  obtain ⟨fromContent, -, fromRegistration, -⟩ :=
    extraction_of_companion Profile.htest.vocabulary left right
  refine ⟨left, right, ?_, ?_⟩
  · intro same
    exact absurd (fromContent same) (by decide)
  · intro same
    exact absurd (fromRegistration same).1 (by decide)

end Registrar.Companion
