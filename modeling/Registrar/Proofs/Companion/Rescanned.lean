import Registrar.Proofs.Companion.Injective
import Registrar.Proofs.Scan.Sample

/-! Companions as sources. A companion repeats the suite and the tests in both of its blocks, but a
marker stands only where the declaration block writes one, before a name of its kind. So the scanner
finds the names of a companion again, each test with what closes its line. -/
namespace Registrar.Companion
open Text Scan

/-- A name that is found again where a companion writes it: it holds neither a marker nor a line
feed, and at its ends none of the characters that are trimmed. -/
structure Findable (vocabulary : Vocabulary) (drops : Char → Bool) (name : String) : Prop where
  nonempty : name ≠ ""
  plain : '\n' ∉ name.toList
  noMarker : ∀ marker ∈ soughtMarkers vocabulary, ¬ marker <:+: name.toList
  first : ∀ char ∈ name.toList.head?, drops char = false
  last : ∀ char ∈ name.toList.getLast?, drops char = false

instance (vocabulary : Vocabulary) (drops : Char → Bool) (name : String) :
    Decidable (Findable vocabulary drops name) :=
  decidable_of_iff (name ≠ "" ∧ '\n' ∉ name.toList ∧
      (∀ marker ∈ soughtMarkers vocabulary, ¬ marker <:+: name.toList) ∧
      name.toList.head?.all (!drops ·) = true ∧ name.toList.getLast?.all (!drops ·) = true) (by
    simp only [Option.all_eq_true, Bool.not_eq_true']
    constructor
    · rintro ⟨nonempty, plain, noMarker, first, last⟩
      exact ⟨nonempty, plain, noMarker, first, last⟩
    · rintro ⟨nonempty, plain, noMarker, first, last⟩
      exact ⟨nonempty, plain, noMarker, first, last⟩)

/-- The names of an extraction can be found again in its companion. -/
structure Rescannable (vocabulary : Vocabulary) (extraction : Extraction) : Prop where
  library : Findable vocabulary isBlank extraction.library
  suite : Findable vocabulary isWrapping extraction.suite
  tests : ∀ test ∈ extraction.tests, Findable vocabulary isWrapping test

/-- The tests as they are found again: each has lost the parenthesis before it and kept the one
behind it, which the semicolon shields. -/
def rescanned (extraction : Extraction) : Extraction :=
  { extraction with tests := extraction.tests.map (· ++ ");") }

/-- The lines of a companion that are written with a marker. -/
def namedLines (vocabulary : Vocabulary) (extraction : Extraction) : List String :=
  ["#define " ++ vocabulary.namespaceMarker ++ " " ++ extraction.library,
    vocabulary.suiteMarker ++ "(" ++ extraction.suite ++ ")"] ++
    extraction.tests.map fun test => "\t" ++ vocabulary.testMarker ++ "(" ++ test ++ ");"

variable {vocabulary : Vocabulary} {profile : Profile} {extraction : Extraction}
  {drops : Char → Bool} {name suite test : String} {tests : List String} {char : Char}

/-! ### Texts without a marker -/

theorem bearsMarker_append_cons (apart : ∀ marker ∈ soughtMarkers vocabulary, char ∉ marker)
    (front back : List Char) : bearsMarker vocabulary (front ++ char :: back) =
      (bearsMarker vocabulary front || bearsMarker vocabulary back) := by
  have parts : ∀ marker ∈ soughtMarkers vocabulary,
      marker <:+: front ++ char :: back ↔ marker <:+: front ∨ marker <:+: back :=
    fun marker known => infix_append_cons_iff (apart marker known)
  rw [Bool.eq_iff_iff, Bool.or_eq_true, bearsMarker_iff, bearsMarker_iff, bearsMarker_iff]
  constructor
  · rintro ⟨marker, known, inside⟩
    rcases (parts marker known).mp inside with left | right
    · exact .inl ⟨marker, known, left⟩
    · exact .inr ⟨marker, known, right⟩
  · rintro (⟨marker, known, left⟩ | ⟨marker, known, right⟩)
    · exact ⟨marker, known, (parts marker known).mpr (.inl left)⟩
    · exact ⟨marker, known, (parts marker known).mpr (.inr right)⟩

theorem Findable.bare (findable : Findable vocabulary drops name) :
    bearsMarker vocabulary name.toList = false := by
  rw [bearsMarker_eq_false_iff]
  exact findable.noMarker

theorem toList_lines (texts : List String) : (lines texts).toList = ended texts := by
  induction texts with
  | nil => rfl
  | cons text texts ih =>
    have parts : lines (text :: texts) = text ++ "\n" ++ lines texts := rfl
    simp [parts, ih, ended]

/-- Lines bear a marker together only if one of them does: no marker goes over the end of a line. -/
theorem bearsMarker_lines (fits : FitOnLine vocabulary) (texts : List String) :
    bearsMarker vocabulary (lines texts).toList =
      texts.any fun text => bearsMarker vocabulary text.toList := by
  rw [toList_lines]
  induction texts with
  | nil => exact fits.bearsMarker_nil
  | cons text texts ih =>
    have parts : ended (text :: texts) = text.toList ++ '\n' :: ended texts := by simp [ended]
    rw [parts, bearsMarker_append_cons fun marker known => (fits marker known).2, ih, List.any_cons]

/-! ### The lines of a companion -/

def registrationLines (vocabulary : Vocabulary) (suite : String) (tests : List String) :
    List String :=
  [vocabulary.runClassBegin ++ "(" ++ suite ++ ")"] ++
    tests.map (fun test => "\t" ++ vocabulary.runMethod ++ "(" ++ suite ++ ", " ++ test ++ ")") ++
    [vocabulary.runClassEnd]

/-- What a companion holds besides the names and the markers bears no marker, and no character that
is written around a name belongs to one. -/
structure BareFrame (vocabulary : Vocabulary) : Prop where
  fixed : ∀ text ∈ headerLines vocabulary ++ ["", "\x7b", "\x7d", vocabulary.runClassBegin,
    vocabulary.runClassEnd, "\t" ++ vocabulary.runMethod],
    bearsMarker vocabulary text.toList = false ∧ '\n' ∉ text.toList
  apart : ∀ marker ∈ soughtMarkers vocabulary,
    '(' ∉ marker ∧ ')' ∉ marker ∧ ' ' ∉ marker ∧ ',' ∉ marker ∧ ';' ∉ marker
  noTest : ∀ text ∈ ["#define " ++ vocabulary.namespaceMarker, vocabulary.suiteMarker],
    ¬ vocabulary.testMarker.toList <:+: text.toList

theorem bareFrame (profile : Profile) : BareFrame profile.vocabulary := by
  cases profile <;> constructor <;> decide +kernel

/-- A call of a macro with a name bears a marker only if the macro or the name does. -/
theorem BareFrame.bearsMarker_call (frame : BareFrame vocabulary) (macroName : String)
    (argument : String) : bearsMarker vocabulary (macroName ++ "(" ++ argument ++ ")").toList =
      (bearsMarker vocabulary macroName.toList || bearsMarker vocabulary argument.toList) := by
  have empty := (frame.fixed "" (by simp)).1
  have parts : (macroName ++ "(" ++ argument ++ ")").toList =
      macroName.toList ++ '(' :: (argument.toList ++ ')' :: []) := by simp
  rw [parts, bearsMarker_append_cons fun marker known => (frame.apart marker known).1,
    bearsMarker_append_cons fun marker known => (frame.apart marker known).2.1]
  simp only [String.toList_empty] at empty
  rw [empty, Bool.or_false]

theorem BareFrame.bearsMarker_pair (frame : BareFrame vocabulary) (suite test : String) :
    bearsMarker vocabulary (suite ++ ", " ++ test).toList =
      (bearsMarker vocabulary suite.toList || bearsMarker vocabulary test.toList) := by
  have empty := (frame.fixed "" (by simp)).1
  have parts : (suite ++ ", " ++ test).toList =
      suite.toList ++ ',' :: ([] ++ ' ' :: test.toList) := by simp
  rw [parts, bearsMarker_append_cons fun marker known => (frame.apart marker known).2.2.2.1,
    bearsMarker_append_cons fun marker known => (frame.apart marker known).2.2.1]
  simp only [String.toList_empty] at empty
  rw [empty, Bool.false_or]

/-- No line of a registration block bears a marker, though each repeats a name. -/
theorem BareFrame.bare_registrationLines (frame : BareFrame vocabulary)
    (suiteFits : Findable vocabulary isWrapping suite)
    (testsFit : ∀ test ∈ tests, Findable vocabulary isWrapping test) :
    ∀ line ∈ registrationLines vocabulary suite tests,
      bearsMarker vocabulary line.toList = false ∧ '\n' ∉ line.toList := by
  have begins := frame.fixed vocabulary.runClassBegin (by simp)
  have ends := frame.fixed vocabulary.runClassEnd (by simp)
  have method := frame.fixed ("\t" ++ vocabulary.runMethod) (by simp)
  simp only [registrationLines, List.forall_mem_append, List.forall_mem_singleton,
    List.forall_mem_map]
  refine ⟨⟨⟨?_, ?_⟩, ?_⟩, ends⟩
  · rw [frame.bearsMarker_call, begins.1, suiteFits.bare, Bool.or_false]
  · simp [begins.2, suiteFits.plain]
  · intro test member
    have fits := testsFit test member
    have parts : "\t" ++ vocabulary.runMethod ++ "(" ++ suite ++ ", " ++ test ++ ")" =
        "\t" ++ vocabulary.runMethod ++ "(" ++ (suite ++ ", " ++ test) ++ ")" := by
      simp only [String.append_assoc]
    constructor
    · rw [parts, frame.bearsMarker_call, frame.bearsMarker_pair, method.1, suiteFits.bare,
        fits.bare, Bool.or_false, Bool.or_false]
    · simpa [suiteFits.plain, fits.plain] using method.2

theorem bears_namedLines (vocabulary : Vocabulary) (extraction : Extraction) :
    ∀ line ∈ namedLines vocabulary extraction, bearsMarker vocabulary line.toList = true := by
  have known : ∀ marker ∈ [vocabulary.namespaceMarker, vocabulary.suiteMarker,
      vocabulary.testMarker], marker.toList ∈ soughtMarkers vocabulary := by simp [soughtMarkers]
  simp only [List.forall_mem_cons] at known
  obtain ⟨namespaces, suite, test, -⟩ := known
  simp only [namedLines, List.forall_mem_append, List.forall_mem_cons, List.forall_mem_map,
    bearsMarker_iff]
  refine ⟨⟨⟨_, namespaces, ?_⟩, ⟨_, suite, ?_⟩, by simp⟩, fun name _ => ⟨_, test, ?_⟩⟩
  · exact ⟨"#define ".toList, ' ' :: extraction.library.toList, by simp⟩
  · exact ⟨[], ("(" ++ extraction.suite ++ ")").toList, by simp⟩
  · exact ⟨['\t'], ("(" ++ name ++ ");").toList, by simp⟩

theorem content_eq_lines (vocabulary : Vocabulary) (extraction : Extraction) :
    content vocabulary extraction = lines (
      ["#define " ++ vocabulary.namespaceMarker ++ " " ++ extraction.library] ++
        headerLines vocabulary ++
        ["", vocabulary.suiteMarker ++ "(" ++ extraction.suite ++ ")", "\x7b"] ++
        extraction.tests.map (fun test => "\t" ++ vocabulary.testMarker ++ "(" ++ test ++ ");") ++
        ["\x7d", ""] ++ registrationLines vocabulary extraction.suite extraction.tests) :=
  (lines_append _ _).symm

theorem plain_namedLines (rescannable : Rescannable profile.vocabulary extraction) :
    ∀ line ∈ namedLines profile.vocabulary extraction, '\n' ∉ line.toList := by
  have fits := fitOnLine profile
  simp only [FitOnLine, soughtMarkers, List.forall_mem_cons] at fits
  obtain ⟨⟨-, namespaces⟩, ⟨-, suite⟩, ⟨-, test⟩, -⟩ := fits
  simp only [namedLines, List.forall_mem_append, List.forall_mem_cons, List.forall_mem_map]
  refine ⟨⟨?_, ?_, by simp⟩, fun name member => ?_⟩
  · simp [namespaces, rescannable.library.plain]
  · simp [suite, rescannable.suite.plain]
  · simp [test, (rescannable.tests name member).plain]

/-- Of the lines of a companion, those with a name that is declared bear a marker. -/
theorem markerLines_content (rescannable : Rescannable profile.vocabulary extraction) :
    markerLines profile.vocabulary (content profile.vocabulary extraction).toList =
      (namedLines profile.vocabulary extraction).map String.toList := by
  have frame := bareFrame profile
  have fixed := frame.fixed
  have registered := frame.bare_registrationLines rescannable.suite rescannable.tests
  have plain := plain_namedLines rescannable
  have bears := bears_namedLines profile.vocabulary extraction
  simp only [List.forall_mem_append, List.forall_mem_cons] at fixed
  simp only [namedLines, List.forall_mem_append, List.forall_mem_cons] at plain bears
  obtain ⟨header, empty, opening, closing, -⟩ := fixed
  obtain ⟨⟨declared, suite, -⟩, tests⟩ := bears
  rw [content_eq_lines, toList_lines, (fitOnLine profile).markerLines_ended]
  · have dropped {texts : List String}
        (bare : ∀ text ∈ texts, bearsMarker profile.vocabulary text.toList = false ∧
          '\n' ∉ text.toList) :
        texts.filter (fun text => bearsMarker profile.vocabulary text.toList) = [] := by
      rw [List.filter_eq_nil_iff]
      intro text member
      rw [(bare text member).1]
      exact Bool.false_ne_true
    simp only [List.filter_append, List.filter_cons, List.filter_nil, declared, suite, empty.1,
      opening.1, closing.1, dropped header, dropped registered, List.filter_eq_self.mpr tests,
      namedLines, if_true, Bool.false_eq_true, if_false, List.append_nil, List.cons_append,
      List.nil_append]
  · simp only [List.forall_mem_append, List.forall_mem_cons]
    exact ⟨⟨⟨⟨⟨⟨plain.1.1, by simp⟩, fun text member => (header text member).2⟩,
      empty.2, plain.1.2.1, opening.2, by simp⟩, plain.2⟩, closing.2, empty.2, by simp⟩,
      fun text member => (registered text member).2⟩

/-! ### Scanning a companion -/

theorem Findable.occurrences (findable : Findable profile.vocabulary drops name) :
    ∀ marker ∈ spelledMarkers (.ofProfile profile), occurrences marker name.toList = [] := by
  rw [← soughtMarkers_eq_spelledMarkers]
  exact fun marker known => occurrences_of_not_infix (findable.noMarker marker known)

/-- A companion spells the declaration of its namespace and of its suite as a sample does. -/
theorem namedLines_eq (profile : Profile) (extraction : Extraction) :
    namedLines profile.vocabulary extraction =
      [declaredLine (.ofProfile profile) extraction.library,
        suiteLine (.ofProfile profile) extraction.suite] ++
        extraction.tests.map fun test => testLine (.ofProfile profile) test ++ ";" := by
  obtain ⟨namespaces, suite, test⟩ := spelledMarkers_ofProfile profile
  simp [namedLines, declaredLine, suiteLine, testLine, bracketed, namespaces, suite, test,
    String.append_assoc]

theorem occurrences_closedLine (findable : Findable profile.vocabulary isWrapping test)
    {marker : List Char} (spelled : marker ∈ spelledMarkers (.ofProfile profile)) :
    occurrences marker (testLine (.ofProfile profile) test ++ ";").toList =
      (occurrences marker ("\t".toList ++ (SampleMarkers.ofProfile profile).testMarker.toList)).map
        (· ++ ((bracketed test).toList ++ [';'])) := by
  have known := spelled
  rw [← soughtMarkers_eq_spelledMarkers] at known
  obtain ⟨-, -, -, -, apart⟩ := (bareFrame profile).apart marker known
  have parts : (testLine (.ofProfile profile) test ++ ";").toList =
      (testLine (.ofProfile profile) test).toList ++ ';' :: [] := by simp
  rw [parts, occurrences_argument apart (occurrences_nil _),
    (legible_ofProfile profile).occurrences_testLine spelled (findable.occurrences _ spelled),
    List.map_map]
  simp only [Function.comp_def, List.append_assoc]

/-- A marker is found in the lines with a name where it is found before the name. -/
theorem occurrences_namedLines (rescannable : Rescannable profile.vocabulary extraction)
    {marker : List Char} (spelled : marker ∈ spelledMarkers (.ofProfile profile)) :
    ((namedLines profile.vocabulary extraction).map String.toList).flatMap (occurrences marker) =
      (occurrences marker
          ("#define ".toList ++ (SampleMarkers.ofProfile profile).namespaceMarker.toList)).map
          (· ++ ' ' :: extraction.library.toList) ++
        (occurrences marker (SampleMarkers.ofProfile profile).suiteMarker.toList).map
          (· ++ (bracketed extraction.suite).toList) ++
        extraction.tests.flatMap fun test =>
          (occurrences marker
            ("\t".toList ++ (SampleMarkers.ofProfile profile).testMarker.toList)).map
            (· ++ ((bracketed test).toList ++ [';'])) := by
  have legible := legible_ofProfile profile
  have library := rescannable.library.occurrences marker spelled
  have suite := rescannable.suite.occurrences marker spelled
  rw [namedLines_eq, List.flatMap_map, List.flatMap_append, List.flatMap_map]
  congr 1
  · simp only [List.flatMap_cons, List.flatMap_nil, List.append_nil,
      legible.occurrences_declaredLine spelled library, legible.occurrences_suiteLine spelled suite]
  · exact List.flatMap_congr fun test member =>
      occurrences_closedLine (rescannable.tests test member) spelled

/-- The semicolon ends the trimming. -/
theorem strippedName_closed (first : ∀ char ∈ test.toList.head?, isWrapping char = false)
    (nonempty : test ≠ "") :
    strippedName ((bracketed test).toList ++ [';']) = test ++ ");" := by
  apply strippedName_of_strips
  refine ⟨⟨['('], [], by simp [bracketed], List.forall_mem_singleton.mpr rfl, by simp⟩, ?_, ?_⟩
  · have head : (test ++ ");").toList.head? = test.toList.head? := by
      rw [String.toList_append, List.head?_append_of_ne_nil]
      simpa using nonempty
    rwa [head]
  · have last : (test ++ ");").toList.getLast? = some ';' := by simp
    rw [last]
    rintro _ ⟨⟩
    decide

/-- Each marker is found before the names of its kind, and nowhere else. -/
theorem arguments_namedLines (rescannable : Rescannable profile.vocabulary extraction) :
    ((namedLines profile.vocabulary extraction).map String.toList).flatMap
        (occurrences profile.vocabulary.namespaceMarker.toList) =
      [' ' :: extraction.library.toList] ∧
    ((namedLines profile.vocabulary extraction).map String.toList).flatMap
        (occurrences profile.vocabulary.suiteMarker.toList) =
      [(bracketed extraction.suite).toList] ∧
    ((namedLines profile.vocabulary extraction).map String.toList).flatMap
        (occurrences profile.vocabulary.testMarker.toList) =
      extraction.tests.map fun test => (bracketed test).toList ++ [';'] := by
  have legible := legible_ofProfile profile
  have noTest := (bareFrame profile).noTest
  obtain ⟨namespaces, suite, test⟩ := spelledMarkers_ofProfile profile
  obtain ⟨spelled, suiteSpelled, testSpelled⟩ := mem_spelledMarkers (.ofProfile profile)
  simp only [← namespaces, ← suite, ← test, List.forall_mem_cons] at noTest ⊢
  obtain ⟨noDeclared, noSuite, -⟩ := noTest
  rw [String.toList_append] at noDeclared
  refine ⟨?_, ?_, ?_⟩
  · rw [occurrences_namedLines rescannable spelled, legible.namespaceInDeclared,
      legible.namespaceInSuite, legible.namespaceInTest]
    simp
  · rw [occurrences_namedLines rescannable suiteSpelled, legible.suiteInDeclared,
      legible.suiteInSuite, legible.suiteInTest]
    simp
  · rw [occurrences_namedLines rescannable testSpelled, occurrences_of_not_infix noDeclared,
      occurrences_of_not_infix noSuite, legible.testInTest]
    simp [List.map_eq_flatMap]

theorem opening?_namedLines (rescannable : Rescannable profile.vocabulary extraction) :
    opening? profile.vocabulary.suiteMarker.toList profile.vocabulary.testMarker.toList
        ((namedLines profile.vocabulary extraction).map String.toList) =
      some ((bracketed extraction.suite).toList,
        extraction.tests.map fun test => (bracketed test).toList ++ [';']) := by
  have legible := legible_ofProfile profile
  obtain ⟨-, suiteMarker, testMarker⟩ := spelledMarkers_ofProfile profile
  obtain ⟨-, suiteSpelled, testSpelled⟩ := mem_spelledMarkers (.ofProfile profile)
  have library := rescannable.library.occurrences _ suiteSpelled
  have suite := rescannable.suite.occurrences
  have declared := legible.occurrences_declaredLine suiteSpelled library
  rw [legible.suiteInDeclared, List.map_nil] at declared
  have opened : after? (SampleMarkers.ofProfile profile).suiteMarker.toList
      (suiteLine (.ofProfile profile) extraction.suite).toList =
        some (bracketed extraction.suite).toList := by
    rw [after?, legible.occurrences_suiteLine suiteSpelled (suite _ suiteSpelled),
      legible.suiteInSuite]
    rfl
  have argument := legible.occurrences_bracketed testSpelled (suite _ testSpelled) []
  rw [List.nil_append, occurrences_nil, List.map_nil] at argument
  have tests : ((extraction.tests.map fun test => testLine (.ofProfile profile) test ++ ";").map
      String.toList).flatMap (occurrences (SampleMarkers.ofProfile profile).testMarker.toList) =
        extraction.tests.map fun test => (bracketed test).toList ++ [';'] := by
    apply flatMap_occurrences_map
    intro test member
    rw [occurrences_closedLine (rescannable.tests test member) testSpelled, legible.testInTest]
    rfl
  rw [namedLines_eq, ← suiteMarker, ← testMarker, List.map_append, List.map_cons, List.map_cons,
    List.cons_append, opening?_of_absent declared, List.cons_append, opening?, opened]
  simp only [argument, List.map_nil, List.nil_append, tests]

theorem scan_content (rescannable : Rescannable profile.vocabulary extraction) :
    scan profile.vocabulary none (content profile.vocabulary extraction).toList =
      .ok ⟨rescanned extraction, 0⟩ := by
  have library := rescannable.library
  have suite := rescannable.suite
  have tests := rescannable.tests
  have declared : String.ofList (trim (' ' :: extraction.library.toList)) = extraction.library :=
    trim_argument library.first library.last
  have named := strippedName_bracketed suite.first suite.last
  have closed : (extraction.tests.map fun test => (bracketed test).toList ++ [';']).map strippedName =
      extraction.tests.map (· ++ ");") := by
    rw [List.map_map]
    exact List.map_congr_left fun test member =>
      strippedName_closed (tests test member).first (tests test member).nonempty
  have kept : (extraction.tests.map (· ++ ");")).filter (· != "") =
      extraction.tests.map (· ++ ");") := by
    simp [List.filter_eq_self]
  have counted : (extraction.tests.map (· ++ ");")).countP (· == "") = 0 := by
    simp [List.countP_eq_zero]
  have spelled : (extraction.library != "") = true := by simpa using library.nonempty
  rw [(fitOnLine profile).scan_eq_markerLines, markerLines_content rescannable, scanLines,
    (arguments_namedLines rescannable).1, List.head?_cons, opening?_namedLines rescannable]
  simp only [chosenNamespace?, Option.map_none, Option.filter_none, Option.none_or, Option.map_some,
    declared, Option.filter_some, spelled, if_true, named, suite.nonempty, if_false, closed, kept,
    counted, rescanned]

/-- The scanner takes a companion for a source of the same names. -/
structure Rescans (profile : Profile) (extraction : Extraction) : Prop where
  /-- It gives the namespace, the suite and as many tests, in their order. -/
  scanned : scan profile.vocabulary none (content profile.vocabulary extraction).toList =
    .ok ⟨rescanned extraction, 0⟩
  /-- Each marker is found where the declaration block writes it, and nowhere else in the text. -/
  libraries : argumentsOf profile.vocabulary.namespaceMarker.toList
    (content profile.vocabulary extraction).toList = [' ' :: extraction.library.toList]
  suites : argumentsOf profile.vocabulary.suiteMarker.toList
    (content profile.vocabulary extraction).toList = [("(" ++ extraction.suite ++ ")").toList]
  tests : argumentsOf profile.vocabulary.testMarker.toList
    (content profile.vocabulary extraction).toList =
      extraction.tests.map fun test => ("(" ++ test ++ ");").toList
  /-- So none stands in the header, nor in the registration block, nor over the ends of its lines. -/
  header : bearsMarker profile.vocabulary (lines (headerLines profile.vocabulary)).toList = false
  registration : bearsMarker profile.vocabulary
    (registration profile.vocabulary extraction.suite extraction.tests).toList = false
  /-- A run tells of as many tests, without a warning, and the companion of the companion declares
  the names that were found. -/
  built : ∀ directory file,
    Generate.buildArtifact ⟨directory, none, profile.vocabulary⟩ file
        (content profile.vocabulary extraction).toList =
      ⟨[.processing file,
          .extracted file extraction.library extraction.suite extraction.tests.length],
        .ok ⟨file, Generate.outputFileName file profile.vocabulary,
          content profile.vocabulary (rescanned extraction)⟩⟩
  silent : ∀ directory file, ∀ event ∈ (Generate.buildArtifact ⟨directory, none, profile.vocabulary⟩
    file (content profile.vocabulary extraction).toList).events, event.level ≠ .warn

/-- **A companion is scanned to its own names.** The namespace and the suite are found again, and
the tests in their order and number, each with the text that closes its line; no other line of the
companion is taken for a marker, and nothing is warned of. -/
theorem companion_rescanned (profile : Profile) {extraction : Extraction}
    (rescannable : Rescannable profile.vocabulary extraction) : Rescans profile extraction := by
  have fits := fitOnLine profile
  have frame := bareFrame profile
  have scanned := scan_content rescannable
  obtain ⟨libraries, suites, tests⟩ := arguments_namedLines rescannable
  rw [← markerLines_content rescannable, ← fits.argumentsOf_eq_markerLines (by simp [soughtMarkers])]
    at libraries suites tests
  have built (directory file : String) :
      Generate.buildArtifact ⟨directory, none, profile.vocabulary⟩ file
          (content profile.vocabulary extraction).toList =
        ⟨[.processing file,
            .extracted file extraction.library extraction.suite extraction.tests.length],
          .ok ⟨file, Generate.outputFileName file profile.vocabulary,
            content profile.vocabulary (rescanned extraction)⟩⟩ := by
    have count : (rescanned extraction).tests.length = extraction.tests.length := List.length_map _
    simp only [Generate.buildArtifact, scanned, Logged.tell_bind, count]
    rfl
  refine ⟨scanned, libraries, suites, ?_, ?_, ?_, built, ?_⟩
  · rw [tests]
    simp [bracketed]
  · rw [bearsMarker_lines fits, List.any_eq_false]
    intro text member
    simp [(frame.fixed text (by simp [member])).1]
  · have bare := frame.bare_registrationLines rescannable.suite rescannable.tests
    have parts : registration profile.vocabulary extraction.suite extraction.tests =
        lines (registrationLines profile.vocabulary extraction.suite extraction.tests) := rfl
    rw [parts, bearsMarker_lines fits, List.any_eq_false]
    intro text member
    simp [(bare text member).1]
  · intro directory file
    rw [built]
    simp [Event.level]

/-- Parentheses, blanks and carriage returns inside names stay, and so do a name given twice, a part
of a marker and the name of another macro. -/
theorem trickyNames_rescanned :
    Rescannable Profile.htest.vocabulary
      ⟨"(lib) x", "Map\r(2", ["at(1) x", "HTEST_", "HTEST_RUN_METHOD(x", "at(1) x"]⟩ ∧
    scan Profile.htest.vocabulary none (content Profile.htest.vocabulary
      ⟨"(lib) x", "Map\r(2", ["at(1) x", "HTEST_", "HTEST_RUN_METHOD(x", "at(1) x"]⟩).toList =
        .ok ⟨⟨"(lib) x", "Map\r(2",
          ["at(1) x);", "HTEST_);", "HTEST_RUN_METHOD(x);", "at(1) x);"]⟩, 0⟩ := by
  have rescannable : Rescannable Profile.htest.vocabulary
      ⟨"(lib) x", "Map\r(2", ["at(1) x", "HTEST_", "HTEST_RUN_METHOD(x", "at(1) x"]⟩ :=
    ⟨by decide +kernel, by decide +kernel, by decide +kernel⟩
  refine ⟨rescannable, ?_⟩
  rw [(companion_rescanned .htest rescannable).scanned]
  decide +kernel

end Registrar.Companion
