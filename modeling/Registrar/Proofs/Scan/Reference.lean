import Registrar.Generate
import Registrar.Proofs.Text.Offset
import Registrar.Proofs.Text.Strip

/-! The scanner against its reference: which bytes of a source name the library, the suite and the
tests, said by offsets alone. The reference fixes every outcome, the failures included. -/
namespace Registrar.Scan
open Text

/-- The name in the argument that begins at an offset: the argument without the characters of a
class at its ends. -/
def Named (drops : Char → Bool) (text : List Char) (offset : Nat) (name : String) : Prop :=
  ∃ argument, Argument text offset argument ∧ Strips drops argument name.toList

/-- The library of a source: the trimmed override, or, where that is blank or absent, the trimmed
argument of the leftmost namespace marker. It is never empty. -/
inductive Library (marker : String) (override : Option String) (text : List Char) : String → Prop
  | chosen {given name : String} (present : override = some given)
      (strips : Strips isBlank given.toList name.toList) (nonempty : name ≠ "") :
      Library marker override text name
  | declared {offset : Nat} {name : String}
      (blank : ∀ given, override = some given → Strips isBlank given.toList [])
      (first : FirstFrom marker.toList text 0 offset)
      (named : Named isBlank text (endOf marker.toList offset) name) (nonempty : name ≠ "") :
      Library marker override text name

/-- What a source declares. The tests are looked for behind the suite marker; every test marker
there either names a test or is counted as unnamed. -/
inductive Reads (vocabulary : Vocabulary) (override : Option String) (text : List Char) :
    Except ScanError Scanned → Prop
  | noNamespace (none : ∀ name, ¬ Library vocabulary.namespaceMarker override text name) :
      Reads vocabulary override text (.error .missingNamespace)
  | noSuite {library : String}
      (found : Library vocabulary.namespaceMarker override text library)
      (absent : ∀ offset, ¬ StandsAt vocabulary.suiteMarker.toList text offset) :
      Reads vocabulary override text (.error .missingSuiteDeclaration)
  | blankSuite {library : String} {offset : Nat}
      (found : Library vocabulary.namespaceMarker override text library)
      (first : FirstFrom vocabulary.suiteMarker.toList text 0 offset)
      (blank : Named isWrapping text (endOf vocabulary.suiteMarker.toList offset) "") :
      Reads vocabulary override text (.error .blankSuiteName)
  | declared {library suite : String} {offset unnamed : Nat} {offsets : List Nat}
      {names : List String}
      (found : Library vocabulary.namespaceMarker override text library)
      (first : FirstFrom vocabulary.suiteMarker.toList text 0 offset)
      (named : Named isWrapping text (endOf vocabulary.suiteMarker.toList offset) suite)
      (nonempty : suite ≠ "")
      (markers : Successive vocabulary.testMarker.toList text
        (endOf vocabulary.suiteMarker.toList offset) offsets)
      (tests : List.Forall₂ (fun marker name =>
        Named isWrapping text (endOf vocabulary.testMarker.toList marker) name) offsets names)
      (counted : (names.filter (· != "")).length + unnamed = offsets.length) :
      Reads vocabulary override text
        (.ok ⟨⟨library, suite, names.filter (· != "")⟩, unnamed⟩)

theorem Named.unique {drops : Char → Bool} {text : List Char} {offset : Nat} {name other : String}
    (left : Named drops text offset name) (right : Named drops text offset other) :
    name = other := by
  obtain ⟨argument, found, strips⟩ := left
  obtain ⟨same, otherFound, otherStrips⟩ := right
  cases found.unique otherFound
  exact String.toList_inj.mp ((strips_iff.mp strips).trans (strips_iff.mp otherStrips).symm)

theorem named_of_follows {text rest : List Char} {offset : Nat} (drops : Char → Bool)
    (follows : Follows text offset rest) :
    Named drops text offset (String.ofList (trimWith drops (line rest))) :=
  ⟨line rest, follows.argument, by rw [String.toList_ofList]; exact strips_trimWith ..⟩

theorem chosenNamespace?_eq_some_iff {override : Option String} {name : String} :
    chosenNamespace? override = some name ↔
      ∃ given, override = some given ∧ Strips isBlank given.toList name.toList ∧ name ≠ "" := by
  simp only [chosenNamespace?, Option.filter_eq_some_iff, Option.map_eq_some_iff, bne_iff_ne, ne_eq]
  constructor
  · rintro ⟨⟨given, present, rfl⟩, nonempty⟩
    refine ⟨given, present, ?_, nonempty⟩
    rw [trimmed, String.toList_ofList]
    exact strips_trimWith ..
  · rintro ⟨given, present, strips, nonempty⟩
    refine ⟨⟨given, present, ?_⟩, nonempty⟩
    rw [trimmed, trim, ← strips_iff.mp strips, String.ofList_toList]

theorem strips_blank_of_chosenNamespace? {override : Option String} {given : String}
    (none : chosenNamespace? override = none) (present : override = some given) :
    Strips isBlank given.toList [] := by
  have strips := strips_trimWith isBlank given.toList
  have empty : trimmed given = "" := by
    by_contra nonempty
    have chosen : chosenNamespace? override = some (trimmed given) :=
      chosenNamespace?_eq_some_iff.mpr
        ⟨given, present, by rw [trimmed, String.toList_ofList]; exact strips, nonempty⟩
    rw [none] at chosen
    cases chosen
  have kept : trimWith isBlank given.toList = [] := by
    simpa [trimmed, trim] using congrArg String.toList empty
  rwa [kept] at strips

theorem declaredNamespace?_eq_some_iff {marker name : String} {text : List Char} :
    declaredNamespace? marker text = some name ↔
      ∃ offset, FirstFrom marker.toList text 0 offset ∧
        Named isBlank text (endOf marker.toList offset) name ∧ name ≠ "" := by
  simp only [declaredNamespace?, Option.filter_eq_some_iff, Option.map_eq_some_iff, bne_iff_ne,
    ne_eq, after?_eq_some_iff]
  constructor
  · rintro ⟨⟨rest, ⟨offset, first, behind⟩, rfl⟩, nonempty⟩
    exact ⟨offset, first, named_of_follows isBlank behind, nonempty⟩
  · rintro ⟨offset, first, named, nonempty⟩
    obtain ⟨rest, behind, -⟩ := first.occurrences (follows_start text)
    exact ⟨⟨rest, ⟨offset, first, behind⟩, (named_of_follows isBlank behind).unique named⟩, nonempty⟩

theorem library_iff {marker name : String} {override : Option String} {text : List Char} :
    Library marker override text name ↔
      (chosenNamespace? override).or (declaredNamespace? marker text) = some name := by
  constructor
  · rintro (⟨present, strips, nonempty⟩ | ⟨blank, first, named, nonempty⟩)
    · rw [chosenNamespace?_eq_some_iff.mpr ⟨_, present, strips, nonempty⟩, Option.some_or]
    · have none : chosenNamespace? override = none := by
        rw [Option.eq_none_iff_forall_ne_some]
        intro other chosen
        obtain ⟨given, present, strips, nonempty⟩ := chosenNamespace?_eq_some_iff.mp chosen
        have same := (strips_iff.mp strips).trans (strips_iff.mp (blank given present)).symm
        exact nonempty (String.toList_eq_nil_iff.mp same)
      rw [none, Option.none_or]
      exact declaredNamespace?_eq_some_iff.mpr ⟨_, first, named, nonempty⟩
  · intro taken
    rcases Option.or_eq_some_iff.mp taken with chosen | ⟨none, declared⟩
    · obtain ⟨given, present, strips, nonempty⟩ := chosenNamespace?_eq_some_iff.mp chosen
      exact .chosen present strips nonempty
    · obtain ⟨offset, first, named, nonempty⟩ := declaredNamespace?_eq_some_iff.mp declared
      exact .declared (fun given => strips_blank_of_chosenNamespace? none) first named nonempty

theorem Library.unique {marker name other : String} {override : Option String} {text : List Char}
    (left : Library marker override text name) (right : Library marker override text other) :
    name = other :=
  Option.some.inj ((library_iff.mp left).symm.trans (library_iff.mp right))

theorem named_testNames {text : List Char} {offsets : List Nat} {marker : String}
    {behind : List (List Char)}
    (follows : List.Forall₂ (fun offset rest => Follows text (endOf marker.toList offset) rest)
      offsets behind) :
    List.Forall₂ (fun offset name => Named isWrapping text (endOf marker.toList offset) name)
      offsets (behind.map name) := by
  induction follows with
  | nil => exact .nil
  | cons follows _ ih => exact .cons (named_of_follows isWrapping follows) ih

theorem names_unique {text marker : List Char} {offsets : List Nat} {names others : List String}
    (left : List.Forall₂ (fun offset name => Named isWrapping text (endOf marker offset) name)
      offsets names)
    (right : List.Forall₂ (fun offset name => Named isWrapping text (endOf marker offset) name)
      offsets others) : names = others := by
  induction left generalizing others with
  | nil => cases right; rfl
  | cons named _ ih =>
    cases right with
    | cons otherNamed rest => rw [named.unique otherNamed, ih rest]

/-- The scanner as three questions, asked in order. -/
theorem scan_eq (vocabulary : Vocabulary) (override : Option String) (text : List Char) :
    scan vocabulary override text =
      match (chosenNamespace? override).or (declaredNamespace? vocabulary.namespaceMarker text) with
      | none => .error .missingNamespace
      | some library => match after? vocabulary.suiteMarker.toList text with
        | none => .error .missingSuiteDeclaration
        | some rest =>
          if name rest = "" then .error .blankSuiteName
          else .ok {
            extraction := {
              library, suite := name rest
              tests := (testNames vocabulary.testMarker rest).filter (· != "") }
            unnamed := (testNames vocabulary.testMarker rest).countP (· == "") } := by
  unfold scan
  cases chosenNamespace? override <;> cases declaredNamespace? vocabulary.namespaceMarker text <;>
    cases after? vocabulary.suiteMarker.toList text <;> simp only [Option.or] <;> try rfl
  all_goals
    split <;> simp_all [bind, Except.bind, pure, Except.pure, throw, throwThe,
      MonadExceptOf.throw]

theorem reads_scan (vocabulary : Vocabulary) (override : Option String) (text : List Char) :
    Reads vocabulary override text (scan vocabulary override text) := by
  rw [scan_eq]
  split
  · rename_i none
    apply Reads.noNamespace
    intro name found
    rw [library_iff.mp found] at none
    cases none
  rename_i library taken
  have found := library_iff.mpr taken
  split
  · rename_i none
    exact .noSuite found (after?_eq_none_iff.mp none)
  rename_i rest suiteAt
  obtain ⟨offset, first, behind⟩ := after?_eq_some_iff.mp suiteAt
  have named := named_of_follows isWrapping behind
  split
  · rename_i blank
    exact .blankSuite found first (blank ▸ named)
  rename_i nonempty
  obtain ⟨offsets, markers, follow⟩ := behind.successive vocabulary.testMarker.toList
  have tests := named_testNames follow
  refine .declared found first named nonempty markers tests ?_
  have total := List.length_eq_countP_add_countP (· == "") (l := testNames vocabulary.testMarker rest)
  rw [← List.countP_eq_length_filter, tests.length_eq, ← testNames, total, Nat.add_comm]
  simp only [bne, Bool.not_eq_true, Bool.decide_eq_false]

theorem Reads.unique {vocabulary : Vocabulary} {override : Option String} {text : List Char}
    {result other : Except ScanError Scanned} (left : Reads vocabulary override text result)
    (right : Reads vocabulary override text other) : result = other := by
  cases left with
  | noNamespace none =>
    cases right with
    | noNamespace => rfl
    | noSuite found | blankSuite found | declared found => exact absurd found (none _)
  | noSuite found absent =>
    cases right with
    | noNamespace none => exact absurd found (none _)
    | noSuite => rfl
    | blankSuite _ first | declared _ first => exact absurd first.2.1 (absent _)
  | blankSuite found first blank =>
    cases right with
    | noNamespace none => exact absurd found (none _)
    | noSuite _ absent => exact absurd first.2.1 (absent _)
    | blankSuite => rfl
    | declared _ otherFirst named nonempty =>
      cases first.unique otherFirst
      exact absurd (named.unique blank) nonempty
  | declared found first named nonempty markers tests counted =>
    cases right with
    | noNamespace none => exact absurd found (none _)
    | noSuite _ absent => exact absurd first.2.1 (absent _)
    | blankSuite _ otherFirst blank =>
      cases first.unique otherFirst
      exact absurd (named.unique blank) nonempty
    | declared otherFound otherFirst otherNamed _ otherMarkers otherTests otherCounted =>
      cases found.unique otherFound
      cases first.unique otherFirst
      cases named.unique otherNamed
      cases markers.unique otherMarkers
      cases names_unique tests otherTests
      cases Nat.add_left_cancel (counted.trans otherCounted.symm)
      rfl

/-- The warnings of a scan: one for each test marker without a name. -/
def warnings (marker : String) : Except ScanError Scanned → List Event
  | .ok scanned => List.replicate scanned.unnamed (.unnamedTest marker)
  | .error _ => []

/-- The scanner gives exactly what the reference gives, and a run warns of exactly the test
markers that the reference counts as unnamed. -/
theorem scan_meets_reference (request : Request) (file : String) (text : List Char) :
    (∀ result, Reads request.vocabulary request.namespaceOverride text result ↔
      scan request.vocabulary request.namespaceOverride text = result) ∧
    (Generate.buildArtifact request file text).events.filter (·.level = .warn) =
      warnings request.vocabulary.testMarker
        (scan request.vocabulary request.namespaceOverride text) := by
  constructor
  · intro result
    constructor
    · intro reads
      exact (reads_scan ..).unique reads
    · rintro rfl
      exact reads_scan ..
  · simp only [Generate.buildArtifact, Logged.tell_bind]
    cases scan request.vocabulary request.namespaceOverride text with
    | error error => simp [warnings, Event.level]
    | ok scanned => simp [warnings, Event.level]

end Registrar.Scan
