import Registrar.Proofs.Scan.Lines
import Registrar.Sample

/-! Sample sources read back. A sample spells the markers on its own; with names that hold no marker
and nothing to trim, the scanner finds exactly these names again, or misses the part left out. -/
namespace Registrar.Scan
open Text

/-- The markers that samples are written with. -/
def spelledMarkers (markers : SampleMarkers) : List (List Char) :=
  [markers.namespaceMarker.toList, markers.suiteMarker.toList, markers.testMarker.toList]

/-- No character of the text ends a line. -/
def OneLine (text : String) : Prop :=
  '\n' ∉ text.toList ∧ '\r' ∉ text.toList

instance (text : String) : Decidable (OneLine text) :=
  inferInstanceAs (Decidable (_ ∧ _))

/-- A name that a sample can carry: one line without a marker, and at its ends none of the
characters that are trimmed. -/
structure Carried (markers : SampleMarkers) (drops : Char → Bool) (name : String) : Prop where
  nonempty : name ≠ ""
  oneLine : OneLine name
  noMarker : ∀ marker ∈ spelledMarkers markers, ¬ marker <:+: name.toList
  first : ∀ char ∈ name.toList.head?, drops char = false
  last : ∀ char ∈ name.toList.getLast?, drops char = false

instance (markers : SampleMarkers) (drops : Char → Bool) (name : String) :
    Decidable (Carried markers drops name) :=
  decidable_of_iff (name ≠ "" ∧ OneLine name ∧
      (∀ marker ∈ spelledMarkers markers, ¬ marker <:+: name.toList) ∧
      name.toList.head?.all (!drops ·) = true ∧ name.toList.getLast?.all (!drops ·) = true) (by
    simp only [Option.all_eq_true, Bool.not_eq_true']
    constructor
    · rintro ⟨nonempty, oneLine, noMarker, first, last⟩
      exact ⟨nonempty, oneLine, noMarker, first, last⟩
    · rintro ⟨nonempty, oneLine, noMarker, first, last⟩
      exact ⟨nonempty, oneLine, noMarker, first, last⟩)

/-- A text with a carriage return before every line feed. -/
def withReturns (text : List Char) : List Char :=
  text.flatMap fun char => if char = '\n' then ['\r', '\n'] else [char]

/-- A text as it is, and as it is read after a carriage return was put before every line feed. -/
def spellings (text : String) : List (List Char) :=
  [text.toList, withoutReturns (withReturns text.toList)]

def ended (lines : List String) : List Char :=
  lines.flatMap fun line => line.toList ++ ['\n']

def bracketed (name : String) : String :=
  "(" ++ name ++ ")"

def declaredLine (markers : SampleMarkers) (library : String) : String :=
  "#define " ++ markers.namespaceMarker ++ " " ++ library

def suiteLine (markers : SampleMarkers) (suite : String) : String :=
  markers.suiteMarker ++ bracketed suite

def testLine (markers : SampleMarkers) (test : String) : String :=
  "\t" ++ markers.testMarker ++ bracketed test

def inclusionLine (markers : SampleMarkers) : String :=
  "#include \"" ++ markers.header ++ "\""

def bodyLines : List String :=
  ["\t\x7b", "\t\t// body", "\t\x7d", ""]

def sampleLines (markers : SampleMarkers) (library suite : Option String) (tests : List String) :
    List String :=
  library.toList.map (declaredLine markers) ++ [inclusionLine markers, ""] ++
    suite.toList.flatMap (fun name => [suiteLine markers name, "\x7b"]) ++
    tests.flatMap (fun test => testLine markers test :: bodyLines) ++
    suite.toList.map fun _ => "\x7d"

theorem ended_append (lines others : List String) :
    ended (lines ++ others) = ended lines ++ ended others :=
  List.flatMap_append

theorem toList_testBody (markers : SampleMarkers) (test : String) :
    (markers.testBody test).toList = ended (testLine markers test :: bodyLines) := by
  simp [SampleMarkers.testBody, testLine, bracketed, bodyLines, ended]

theorem source_eq_ended (markers : SampleMarkers) (library suite : Option String)
    (tests : List String) :
    (markers.source library suite tests).toList = ended (sampleLines markers library suite tests) := by
  have bodies : (String.join (tests.map markers.testBody)).toList =
      ended (tests.flatMap fun test => testLine markers test :: bodyLines) := by
    rw [String.toList_join, List.flatMap_map, ended, List.flatMap_assoc]
    exact List.flatMap_congr fun test _ => toList_testBody markers test
  have inclusion : "#include \"".toList ++ markers.header.toList ++ "\"\n\n".toList =
      ended [inclusionLine markers, ""] := by
    simp [inclusionLine, ended]
  have declared : (library.elim "" fun name =>
      "#define " ++ markers.namespaceMarker ++ " " ++ name ++ "\n").toList =
      ended (library.toList.map (declaredLine markers)) := by
    cases library <;> simp [ended, declaredLine]
  have opened : (suite.elim "" fun name =>
      markers.suiteMarker ++ "(" ++ name ++ ")\n\x7b\n").toList =
      ended (suite.toList.flatMap fun name => [suiteLine markers name, "\x7b"]) := by
    cases suite <;> simp [ended, suiteLine, bracketed]
  have closed : (if suite.isSome then "\x7d\n" else "").toList =
      ended (suite.toList.map fun _ => "\x7d") := by
    cases suite <;> simp [ended]
  rw [SampleMarkers.source, sampleLines]
  simp only [ended_append, String.toList_append, List.append_assoc] at inclusion ⊢
  rw [declared, opened, bodies, closed, ← inclusion]
  simp only [List.append_assoc]

theorem splitOn_ended {lines : List String} (plain : ∀ line ∈ lines, '\n' ∉ line.toList) :
    (ended lines).splitOn '\n' = lines.map String.toList ++ [[]] := by
  induction lines with
  | nil => rfl
  | cons line lines ih =>
    rw [List.forall_mem_cons] at plain
    have parts : ended (line :: lines) = line.toList ++ '\n' :: ended lines := by simp [ended]
    rw [parts, List.splitOn_append_cons_self_of_not_mem plain.1, ih plain.2, List.map_cons,
      List.cons_append]

theorem withoutReturns_withReturns {text : List Char} (plain : '\r' ∉ text) :
    withoutReturns (withReturns text) = text := by
  induction text with
  | nil => rfl
  | cons char text ih =>
    rw [List.mem_cons, not_or] at plain
    have rest := ih plain.2
    simp only [withoutReturns, withReturns] at rest ⊢
    rw [List.flatMap_cons, List.filter_append, rest]
    by_cases feed : char = '\n'
    · subst feed
      rfl
    · have kept : (char != '\r') = true := by simpa using Ne.symm plain.1
      simp [feed, kept]

/-- What keeps a sample legible: no marker has a character that stands around a name, and each
stands in the lines of its own kind, before the argument, and in no others. -/
structure Legible (markers : SampleMarkers) : Prop where
  plain : ∀ marker ∈ spelledMarkers markers,
    marker ≠ [] ∧ '\n' ∉ marker ∧ ' ' ∉ marker ∧ '(' ∉ marker ∧ ')' ∉ marker
  oneLine : ∀ text ∈ [markers.namespaceMarker, markers.suiteMarker, markers.testMarker,
    markers.header], OneLine text
  namespaceInDeclared : occurrences markers.namespaceMarker.toList
    ("#define ".toList ++ markers.namespaceMarker.toList) = [[]]
  suiteInDeclared : occurrences markers.suiteMarker.toList
    ("#define ".toList ++ markers.namespaceMarker.toList) = []
  namespaceInSuite : occurrences markers.namespaceMarker.toList markers.suiteMarker.toList = []
  suiteInSuite : occurrences markers.suiteMarker.toList markers.suiteMarker.toList = [[]]
  namespaceInTest : occurrences markers.namespaceMarker.toList
    ("\t".toList ++ markers.testMarker.toList) = []
  suiteInTest : occurrences markers.suiteMarker.toList
    ("\t".toList ++ markers.testMarker.toList) = []
  testInTest : occurrences markers.testMarker.toList
    ("\t".toList ++ markers.testMarker.toList) = [[]]
  others : ∀ marker ∈ spelledMarkers markers,
    ∀ line ∈ inclusionLine markers :: "\x7b" :: "\x7d" :: bodyLines, ¬ marker <:+: line.toList

theorem legible_ofProfile (profile : Profile) : Legible (.ofProfile profile) := by
  cases profile <;> constructor <;> decide +kernel

/-- The samples of a framework spell the markers as its vocabulary does. -/
theorem spelledMarkers_ofProfile (profile : Profile) :
    (SampleMarkers.ofProfile profile).namespaceMarker = profile.vocabulary.namespaceMarker ∧
    (SampleMarkers.ofProfile profile).suiteMarker = profile.vocabulary.suiteMarker ∧
    (SampleMarkers.ofProfile profile).testMarker = profile.vocabulary.testMarker := by
  cases profile <;> exact ⟨rfl, rfl, rfl⟩

theorem soughtMarkers_eq_spelledMarkers (profile : Profile) :
    soughtMarkers profile.vocabulary = spelledMarkers (.ofProfile profile) := by
  obtain ⟨namespaces, suite, test⟩ := spelledMarkers_ofProfile profile
  rw [soughtMarkers, spelledMarkers, namespaces, suite, test]

theorem fitOnLine (profile : Profile) : FitOnLine profile.vocabulary := by
  rw [FitOnLine, soughtMarkers_eq_spelledMarkers]
  intro marker spelled
  obtain ⟨some, plain, -⟩ := (legible_ofProfile profile).plain marker spelled
  exact ⟨some, plain⟩

variable {markers : SampleMarkers} {drops : Char → Bool} {library suite test name : String}
  {marker : List Char}

theorem Carried.bare (carried : Carried markers drops name) (spelled : marker ∈ spelledMarkers markers) :
    occurrences marker name.toList = [] :=
  occurrences_of_not_infix (carried.noMarker marker spelled)

theorem Legible.occurrences_bracketed (legible : Legible markers) (spelled : marker ∈ spelledMarkers markers)
    (absent : occurrences marker name.toList = []) (front : List Char) :
    occurrences marker (front ++ (bracketed name).toList) =
      (occurrences marker front).map (· ++ (bracketed name).toList) := by
  obtain ⟨-, -, -, opening, closing⟩ := legible.plain marker spelled
  have bare : occurrences marker (name.toList ++ [')']) = [] := by
    rw [occurrences_append_cons closing, absent, occurrences_nil]
    rfl
  have parts : (bracketed name).toList = '(' :: (name.toList ++ [')']) := by simp [bracketed]
  rw [parts, occurrences_argument opening bare]

theorem Legible.occurrences_declaredLine (legible : Legible markers)
    (spelled : marker ∈ spelledMarkers markers) (absent : occurrences marker library.toList = []) :
    occurrences marker (declaredLine markers library).toList =
      (occurrences marker ("#define ".toList ++ markers.namespaceMarker.toList)).map
        (· ++ ' ' :: library.toList) := by
  obtain ⟨-, -, blank, -⟩ := legible.plain marker spelled
  rw [← occurrences_argument blank absent]
  simp [declaredLine]

theorem Legible.occurrences_suiteLine (legible : Legible markers)
    (spelled : marker ∈ spelledMarkers markers) (absent : occurrences marker suite.toList = []) :
    occurrences marker (suiteLine markers suite).toList =
      (occurrences marker markers.suiteMarker.toList).map (· ++ (bracketed suite).toList) := by
  rw [suiteLine, String.toList_append, legible.occurrences_bracketed spelled absent]

theorem Legible.occurrences_testLine (legible : Legible markers)
    (spelled : marker ∈ spelledMarkers markers) (absent : occurrences marker test.toList = []) :
    occurrences marker (testLine markers test).toList =
      (occurrences marker ("\t".toList ++ markers.testMarker.toList)).map
        (· ++ (bracketed test).toList) := by
  rw [testLine, String.toList_append, String.toList_append,
    legible.occurrences_bracketed spelled absent]

theorem trim_argument (first : ∀ char ∈ library.toList.head?, isBlank char = false)
    (last : ∀ char ∈ library.toList.getLast?, isBlank char = false) :
    String.ofList (trim (' ' :: library.toList)) = library := by
  have strips : Strips isBlank (' ' :: library.toList) library.toList :=
    ⟨⟨[' '], [], by simp, List.forall_mem_singleton.mpr rfl, by simp⟩, first, last⟩
  rw [trim, ← strips_iff.mp strips, String.ofList_toList]

theorem strippedName_of_strips {argument : List Char}
    (strips : Strips isWrapping argument name.toList) : strippedName argument = name := by
  rw [strippedName, ← strips_iff.mp strips, String.ofList_toList]

theorem strippedName_bracketed (first : ∀ char ∈ name.toList.head?, isWrapping char = false)
    (last : ∀ char ∈ name.toList.getLast?, isWrapping char = false) :
    strippedName (bracketed name).toList = name :=
  strippedName_of_strips ⟨⟨['('], [')'], by simp [bracketed], List.forall_mem_singleton.mpr rfl,
    List.forall_mem_singleton.mpr rfl⟩, first, last⟩

theorem mem_spelledMarkers (markers : SampleMarkers) :
    markers.namespaceMarker.toList ∈ spelledMarkers markers ∧
      markers.suiteMarker.toList ∈ spelledMarkers markers ∧
      markers.testMarker.toList ∈ spelledMarkers markers := by
  simp [spelledMarkers]

/-- The lines of a sample that hold a marker. -/
def markedLines (markers : SampleMarkers) (library suite : Option String) (tests : List String) :
    List String :=
  library.toList.map (declaredLine markers) ++ suite.toList.map (suiteLine markers) ++
    tests.map (testLine markers)

/-- The names that a sample is written with can be carried. -/
structure CarriedAll (markers : SampleMarkers) (library suite : Option String)
    (tests : List String) : Prop where
  library : ∀ name ∈ library, Carried markers isBlank name
  suite : ∀ name ∈ suite, Carried markers isWrapping name
  tests : ∀ name ∈ tests, Carried markers isWrapping name

variable {libraries suites : Option String} {tests : List String}

theorem declared_markedLines (legible : Legible markers)
    (carried : CarriedAll markers libraries suites tests) :
    ((markedLines markers libraries suites tests).flatMap fun line =>
      occurrences markers.namespaceMarker.toList line.toList) =
        libraries.toList.map fun library => ' ' :: library.toList := by
  obtain ⟨spelled, -, -⟩ := mem_spelledMarkers markers
  have noTest : (tests.flatMap fun test =>
      occurrences markers.namespaceMarker.toList (testLine markers test).toList) = [] := by
    rw [List.flatMap_eq_nil_iff]
    intro test member
    have bare := (carried.tests test member).bare spelled
    rw [legible.occurrences_testLine spelled bare, legible.namespaceInTest, List.map_nil]
  have noSuite : (suites.toList.flatMap fun suite =>
      occurrences markers.namespaceMarker.toList (suiteLine markers suite).toList) = [] := by
    rw [List.flatMap_eq_nil_iff]
    intro suite member
    have bare := (carried.suite suite (by simpa using member)).bare spelled
    rw [legible.occurrences_suiteLine spelled bare, legible.namespaceInSuite, List.map_nil]
  simp only [markedLines, List.flatMap_append, List.flatMap_map, noTest, noSuite, List.append_nil]
  cases libraries with
  | none => rfl
  | some library =>
    have found := legible.occurrences_declaredLine spelled ((carried.library library rfl).bare spelled)
    rw [legible.namespaceInDeclared] at found
    simp [found]

theorem opening?_testLines (legible : Legible markers)
    (carried : ∀ name ∈ tests, Carried markers isWrapping name) :
    opening? markers.suiteMarker.toList markers.testMarker.toList
      ((tests.map (testLine markers)).map String.toList) = none := by
  obtain ⟨-, spelled, -⟩ := mem_spelledMarkers markers
  apply opening?_eq_none
  simp only [List.forall_mem_map]
  intro test member
  rw [legible.occurrences_testLine spelled ((carried test member).bare spelled), legible.suiteInTest,
    List.map_nil]

/-- One occurrence on each of some lines. -/
theorem flatMap_occurrences_map {form : String → String} {found : String → List Char}
    (once : ∀ test ∈ tests, occurrences marker (form test).toList = [found test]) :
    ((tests.map form).map String.toList).flatMap (occurrences marker) = tests.map found := by
  rw [List.flatMap_map, List.flatMap_map, List.map_eq_flatMap]
  exact List.flatMap_congr once

theorem occurrences_testLines (legible : Legible markers)
    (carried : ∀ name ∈ tests, Carried markers isWrapping name) :
    ((tests.map (testLine markers)).map String.toList).flatMap
        (occurrences markers.testMarker.toList) =
      tests.map fun test => (bracketed test).toList := by
  obtain ⟨-, -, spelled⟩ := mem_spelledMarkers markers
  apply flatMap_occurrences_map
  intro test member
  rw [legible.occurrences_testLine spelled ((carried test member).bare spelled), legible.testInTest]
  rfl

theorem opening?_markedLines (legible : Legible markers)
    (carried : CarriedAll markers libraries suites tests) :
    opening? markers.suiteMarker.toList markers.testMarker.toList
        ((markedLines markers libraries suites tests).map String.toList) =
      suites.map fun suite =>
        ((bracketed suite).toList, tests.map fun test => (bracketed test).toList) := by
  obtain ⟨-, suiteSpelled, testSpelled⟩ := mem_spelledMarkers markers
  have afterDeclared (lines : List (List Char)) :
      opening? markers.suiteMarker.toList markers.testMarker.toList
          ((libraries.toList.map (declaredLine markers)).map String.toList ++ lines) =
        opening? markers.suiteMarker.toList markers.testMarker.toList lines := by
    cases libraries with
    | none => rfl
    | some library =>
      have bare := (carried.library library rfl).bare suiteSpelled
      have absent := legible.occurrences_declaredLine suiteSpelled bare
      rw [legible.suiteInDeclared, List.map_nil] at absent
      exact opening?_of_absent absent lines
  rw [markedLines, List.append_assoc, List.map_append, afterDeclared, List.map_append]
  cases suites with
  | none => exact opening?_testLines legible carried.tests
  | some suite =>
    have admitted := carried.suite suite rfl
    have opens : after? markers.suiteMarker.toList (suiteLine markers suite).toList =
        some (bracketed suite).toList := by
      rw [after?, legible.occurrences_suiteLine suiteSpelled (admitted.bare suiteSpelled),
        legible.suiteInSuite]
      rfl
    have bare := legible.occurrences_bracketed testSpelled (admitted.bare testSpelled) []
    rw [List.nil_append, occurrences_nil, List.map_nil] at bare
    simp only [Option.toList_some, List.map_cons, List.map_nil, List.cons_append, List.nil_append,
      opening?, opens, bare, occurrences_testLines legible carried.tests, Option.map_some]

/-- The outcome for a sample: what is left out is missed, and what is written is found. -/
def sampleOutcome (override library suite : Option String) (tests : List String) :
    Except ScanError Scanned :=
  match (chosenNamespace? override).or library with
  | none => .error .missingNamespace
  | some library =>
    match suite with
    | none => .error .missingSuiteDeclaration
    | some suite => .ok ⟨⟨library, suite, tests⟩, 0⟩

theorem oneLine_append {left right : String} :
    OneLine (left ++ right) ↔ OneLine left ∧ OneLine right := by
  simp only [OneLine, String.toList_append, List.mem_append, not_or]
  tauto

theorem oneLine_sampleLines (legible : Legible markers)
    (carried : CarriedAll markers libraries suites tests) :
    ∀ line ∈ sampleLines markers libraries suites tests, OneLine line := by
  have spelled := legible.oneLine
  simp only [List.forall_mem_cons] at spelled
  obtain ⟨namespaces, suiteMarker, testMarker, header, -⟩ := spelled
  have brackets (name : String) (admitted : OneLine name) : OneLine (bracketed name) := by
    simp only [bracketed, oneLine_append, admitted, and_true]
    decide
  have declared (name : String) (admitted : OneLine name) : OneLine (declaredLine markers name) := by
    simp only [declaredLine, oneLine_append, namespaces, admitted, and_true]
    decide
  have tested (name : String) (admitted : OneLine name) : OneLine (testLine markers name) := by
    simp only [testLine, oneLine_append, testMarker, brackets name admitted, and_true]
    decide
  have opened (name : String) (admitted : OneLine name) : OneLine (suiteLine markers name) := by
    simp only [suiteLine, oneLine_append, suiteMarker, brackets name admitted, and_true]
  have inclusion : OneLine (inclusionLine markers) := by
    simp only [inclusionLine, oneLine_append, header, and_true]
    decide
  have body : ∀ line ∈ bodyLines, OneLine line := by decide
  have braces : OneLine "" ∧ OneLine "\x7b" ∧ OneLine "\x7d" := by decide
  simp only [sampleLines, List.forall_mem_append, List.forall_mem_map, List.forall_mem_flatMap,
    List.forall_mem_cons, Option.mem_toList]
  refine ⟨⟨⟨⟨?_, inclusion, braces.1, by simp⟩, ?_⟩, ?_⟩, fun _ _ => braces.2.2⟩
  · intro name given
    exact declared name (carried.library name given).oneLine
  · intro name given
    exact ⟨opened name (carried.suite name given).oneLine, braces.2.1, by simp⟩
  · intro name given
    exact ⟨tested name (carried.tests name given).oneLine, body⟩

theorem FitOnLine.markerLines_ended {vocabulary : Vocabulary} (fits : FitOnLine vocabulary)
    {lines : List String} (plain : ∀ line ∈ lines, '\n' ∉ line.toList) :
    markerLines vocabulary (ended lines) =
      (lines.filter fun line => bearsMarker vocabulary line.toList).map String.toList := by
  have last : [[]].filter (bearsMarker vocabulary) = [] := by
    rw [List.filter_cons_of_neg (Bool.eq_false_iff.mp fits.bearsMarker_nil), List.filter_nil]
  rw [markerLines, splitOn_ended plain, List.filter_append, last, List.append_nil, List.filter_map]
  rfl

/-- The lines of a sample that carry no name bear no marker. -/
theorem bearsMarker_of_other (profile : Profile) {line : String}
    (other : line ∈ inclusionLine (.ofProfile profile) :: "\x7b" :: "\x7d" :: bodyLines) :
    bearsMarker profile.vocabulary line.toList = false := by
  rw [bearsMarker_eq_false_iff, soughtMarkers_eq_spelledMarkers]
  exact fun marker known => (legible_ofProfile profile).others marker known line other

/-- The lines of a sample that bear a marker are those that carry a name. -/
theorem sampleLines_filter (profile : Profile) :
    (sampleLines (.ofProfile profile) libraries suites tests).filter
        (fun line => bearsMarker profile.vocabulary line.toList) =
      markedLines (.ofProfile profile) libraries suites tests := by
  have dropped {lines : List String} (other : ∀ line ∈ lines,
      line ∈ inclusionLine (.ofProfile profile) :: "\x7b" :: "\x7d" :: bodyLines) :
      lines.filter (fun line => bearsMarker profile.vocabulary line.toList) = [] := by
    rw [List.filter_eq_nil_iff]
    intro line member
    rw [bearsMarker_of_other profile (other line member)]
    exact Bool.false_ne_true
  have spelled := soughtMarkers_eq_spelledMarkers profile
  generalize SampleMarkers.ofProfile profile = markers at spelled dropped ⊢
  have kept (line : String) (marker : List Char) (known : marker ∈ spelledMarkers markers)
      (inside : marker <:+: line.toList) : bearsMarker profile.vocabulary line.toList = true :=
    bearsMarker_iff.mpr ⟨marker, spelled ▸ known, inside⟩
  obtain ⟨namespaces, suiteMarker, testMarker⟩ := mem_spelledMarkers markers
  have declared : (libraries.toList.map (declaredLine markers)).filter
        (fun line => bearsMarker profile.vocabulary line.toList) =
      libraries.toList.map (declaredLine markers) := by
    rw [List.filter_eq_self]
    refine List.forall_mem_map.mpr fun name _ => kept _ _ namespaces ?_
    exact ⟨"#define ".toList, ' ' :: name.toList, by simp [declaredLine]⟩
  have opened (name : String) : [suiteLine markers name, "\x7b"].filter
      (fun line => bearsMarker profile.vocabulary line.toList) = [suiteLine markers name] := by
    rw [List.filter_cons_of_pos, dropped (by simp)]
    exact kept _ _ suiteMarker ⟨[], (bracketed name).toList, by simp [suiteLine]⟩
  have tested (name : String) : (testLine markers name :: bodyLines).filter
      (fun line => bearsMarker profile.vocabulary line.toList) = [testLine markers name] := by
    rw [List.filter_cons_of_pos, dropped fun line member => by simp [member]]
    exact kept _ _ testMarker ⟨['\t'], (bracketed name).toList, by simp [testLine]⟩
  have inclusion : [inclusionLine markers, ""].filter
      (fun line => bearsMarker profile.vocabulary line.toList) = [] := dropped (by simp [bodyLines])
  have closing : (suites.toList.map fun _ => "\x7d").filter
      (fun line => bearsMarker profile.vocabulary line.toList) = [] := dropped (by simp)
  simp only [sampleLines, markedLines, List.filter_append, List.filter_flatMap, declared, opened,
    tested, inclusion, closing, List.append_nil, ← List.map_eq_flatMap]

theorem markerLines_source (profile : Profile)
    (carried : CarriedAll (.ofProfile profile) libraries suites tests) :
    markerLines profile.vocabulary
        ((SampleMarkers.ofProfile profile).source libraries suites tests).toList =
      (markedLines (.ofProfile profile) libraries suites tests).map String.toList := by
  have plain : ∀ line ∈ sampleLines (.ofProfile profile) libraries suites tests,
      '\n' ∉ line.toList :=
    fun line member => (oneLine_sampleLines (legible_ofProfile profile) carried line member).1
  rw [source_eq_ended, (fitOnLine profile).markerLines_ended plain, sampleLines_filter]

theorem CarriedAll.declared (carried : CarriedAll markers libraries suites tests) :
    (((libraries.toList.map fun library => ' ' :: library.toList).head?.map fun argument =>
      String.ofList (trim argument)).filter (· != "")) = libraries := by
  cases libraries with
  | none => rfl
  | some library =>
    have admitted := carried.library library rfl
    simp [trim_argument admitted.first admitted.last, admitted.nonempty]

theorem CarriedAll.strippedNames (carried : CarriedAll markers libraries suites tests) :
    (tests.map fun test => (bracketed test).toList).map strippedName = tests ∧
      tests.filter (· != "") = tests ∧ tests.countP (· == "") = 0 := by
  refine ⟨?_, ?_, ?_⟩
  · have same : ∀ test ∈ tests, strippedName (bracketed test).toList = test := by
      intro test member
      exact strippedName_bracketed (carried.tests test member).first (carried.tests test member).last
    rw [List.map_map, List.map_congr_left (f := strippedName ∘ _) same, List.map_id']
  · rw [List.filter_eq_self]
    intro test member
    simpa using (carried.tests test member).nonempty
  · rw [List.countP_eq_zero]
    intro test member
    simpa using (carried.tests test member).nonempty

theorem scan_source (profile : Profile) (override : Option String)
    (carried : CarriedAll (.ofProfile profile) libraries suites tests) :
    scan profile.vocabulary override
        ((SampleMarkers.ofProfile profile).source libraries suites tests).toList =
      sampleOutcome override libraries suites tests := by
  have legible := legible_ofProfile profile
  obtain ⟨namespaces, suiteMarker, testMarker⟩ := spelledMarkers_ofProfile profile
  rw [(fitOnLine profile).scan_eq_markerLines, markerLines_source profile carried,
    scanLines, ← namespaces, ← suiteMarker, ← testMarker, List.flatMap_map,
    declared_markedLines legible carried, carried.declared, opening?_markedLines legible carried,
    sampleOutcome]
  cases (chosenNamespace? override).or libraries with
  | none => rfl
  | some library =>
    cases suites with
    | none => rfl
    | some suite =>
      have admitted := carried.suite suite rfl
      obtain ⟨names, filtered, counted⟩ := carried.strippedNames
      simp only [Option.map_some, names, filtered, counted,
        strippedName_bracketed admitted.first admitted.last, admitted.nonempty, if_false]

theorem spellings_source (profile : Profile)
    (carried : CarriedAll (.ofProfile profile) libraries suites tests) :
    ∀ text ∈ spellings ((SampleMarkers.ofProfile profile).source libraries suites tests),
      text = ((SampleMarkers.ofProfile profile).source libraries suites tests).toList := by
  have plain : '\r' ∉ ((SampleMarkers.ofProfile profile).source libraries suites tests).toList := by
    rw [source_eq_ended, ended, List.mem_flatMap]
    rintro ⟨line, member, inside⟩
    have oneLine := oneLine_sampleLines (legible_ofProfile profile) carried line member
    simp [oneLine.2] at inside
  intro text member
  simpa [spellings, withoutReturns_withReturns plain] using member

/-- **Samples are read back.** A sample with names that it can carry is scanned to these names, in
their order, without a warning, also where carriage returns ended its lines. One without a namespace
or a suite misses it, and an override stands in for the namespace and changes nothing else. -/
theorem sample_read_back (profile : Profile) {library suite : String} {tests : List String}
    (libraryFits : Carried (.ofProfile profile) isBlank library)
    (suiteFits : Carried (.ofProfile profile) isWrapping suite)
    (testsFit : ∀ test ∈ tests, Carried (.ofProfile profile) isWrapping test) :
    let sample := (SampleMarkers.ofProfile profile).source
    (∀ text ∈ spellings (sample (some library) (some suite) tests),
      scan profile.vocabulary none text = .ok ⟨⟨library, suite, tests⟩, 0⟩) ∧
    (∀ suite? ∈ [none, some suite], ∀ text ∈ spellings (sample none suite? tests),
      scan profile.vocabulary none text = .error .missingNamespace) ∧
    (∀ text ∈ spellings (sample (some library) none tests),
      scan profile.vocabulary none text = .error .missingSuiteDeclaration) ∧
    ∀ override, trimmed override ≠ "" → ∀ library? ∈ [none, some library],
      (∀ text ∈ spellings (sample library? none tests),
        scan profile.vocabulary (some override) text = .error .missingSuiteDeclaration) ∧
      ∀ text ∈ spellings (sample library? (some suite) tests),
        scan profile.vocabulary (some override) text = .ok ⟨⟨trimmed override, suite, tests⟩, 0⟩ := by
  have only {given : Option String} {name : String} (one : given ∈ [none, some name]) :
      ∀ other ∈ given, other = name := by
    rintro other rfl
    simpa using one
  have outcome (override : Option String) {library? suite? : Option String}
      (ofLibrary : library? ∈ [none, some library]) (ofSuite : suite? ∈ [none, some suite]) :
      ∀ text ∈ spellings ((SampleMarkers.ofProfile profile).source library? suite? tests),
        scan profile.vocabulary override text = sampleOutcome override library? suite? tests := by
    have carried : CarriedAll (.ofProfile profile) library? suite? tests := by
      refine ⟨?_, ?_, testsFit⟩
      · intro name given
        exact only ofLibrary name given ▸ libraryFits
      · intro name given
        exact only ofSuite name given ▸ suiteFits
    intro text member
    rw [spellings_source profile carried text member, scan_source profile override carried]
  refine ⟨?_, ?_, ?_, ?_⟩
  · exact outcome none (by simp) (by simp)
  · intro suite? ofSuite
    exact outcome none (by simp) ofSuite
  · exact outcome none (by simp) (by simp)
  · intro override some library? ofLibrary
    have chosen : chosenNamespace? (.some override) = .some (trimmed override) := by
      simp [chosenNamespace?, some]
    constructor
    · intro text member
      rw [outcome _ ofLibrary (by simp) text member, sampleOutcome, chosen]
      rfl
    · intro text member
      rw [outcome _ ofLibrary (by simp) text member, sampleOutcome, chosen]
      rfl

/-- Parentheses and blanks inside names stay, and so do a name given twice and part of a marker. -/
theorem sample_read_back_nested :
    Carried .hunittest isBlank "(lib)" ∧ Carried .hunittest isWrapping "Map 2" ∧
    (∀ test ∈ ["at(1) x", "HL_UT_", "at(1) x"], Carried .hunittest isWrapping test) ∧
    ∀ text ∈ spellings
        (SampleMarkers.hunittest.source (some "(lib)") (some "Map 2") ["at(1) x", "HL_UT_", "at(1) x"]),
      scan Profile.hunittest.vocabulary none text =
        .ok ⟨⟨"(lib)", "Map 2", ["at(1) x", "HL_UT_", "at(1) x"]⟩, 0⟩ := by
  have library : Carried .hunittest isBlank "(lib)" := by decide +kernel
  have suite : Carried .hunittest isWrapping "Map 2" := by decide +kernel
  have tests : ∀ test ∈ ["at(1) x", "HL_UT_", "at(1) x"], Carried .hunittest isWrapping test := by
    decide +kernel
  exact ⟨library, suite, tests, (sample_read_back .hunittest library suite tests).1⟩

end Registrar.Scan
