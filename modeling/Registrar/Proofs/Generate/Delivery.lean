import Mathlib
import Registrar.Proofs.Generate.Reading
import Registrar.Proofs.Generate.Writing
import Registrar.Proofs.Source.Contents

/-! A run that succeeds, stage by stage, and what it has done to the file system in the end. -/
namespace Registrar.Generate
open FileSystem Output

variable {fs : FileSystem} {request : Request} {home : Location} {sources : List SourceFile}
  {artifacts : List Artifact} {planned : Plan} {summary : Summary}

/-- Whether a source can be read and has text. -/
def hasText (fs : FileSystem) (home : Location) (source : SourceFile) : Bool :=
  match Source.read fs home source with
  | .ok (_ :: _) => true
  | _ => false

def used (fs : FileSystem) (home : Location) (sources : List SourceFile) : List SourceFile :=
  sources.filter (hasText fs home)

/-- The companion of a source: its text is the rendering of what the scanner finds in the source. -/
def CompanionOf (fs : FileSystem) (request : Request) (home : Location) (source : SourceFile)
    (artifact : Artifact) : Prop :=
  ∃ text scanned, Source.read fs home source = .ok text ∧
    scan request.vocabulary request.namespaceOverride text = .ok scanned ∧
    artifact = artifactOf request source.name scanned

/-- What a run has found and rendered when it begins to write. -/
structure Planned (fs : FileSystem) (request : Request) (home : Location) (planned : Plan) :
    Prop where
  opened : Source.openDirectory fs request.sourceDir = .ok home
  located : Source.Located fs home request.sourceDir request.vocabulary planned.sources
  /-- Each source is read, as the file that it was found at. -/
  read : ∀ source ∈ planned.sources, ∃ place content written,
    Source.FoundAt fs home source place ∧ fs.get? place = some (.file content written) ∧
    Source.read fs home source = .ok (Text.withoutReturns (Utf8.decode content))
  skipped : planned.skippedEmpty + (used fs home planned.sources).length = planned.sources.length
  companions : List.Forall₂ (CompanionOf fs request home) (used fs home planned.sources)
    planned.artifacts

/-- A source without text is passed over; one with text gets its companion. -/
theorem prepare_eq_ok_iff {source : SourceFile} {verdict : Option Artifact} :
    (prepare fs home request source).result = .ok verdict ↔
      match verdict with
      | none => Source.read fs home source = .ok []
      | some artifact =>
        hasText fs home source = true ∧ CompanionOf fs request home source artifact := by
  rw [prepare_result, hasText]
  cases read : Source.read fs home source with
  | error error => cases verdict <;> simp [CompanionOf, read]
  | ok text =>
    cases text with
    | nil => cases verdict <;> simp
    | cons char text =>
      cases scanned : scan request.vocabulary request.namespaceOverride (char :: text) with
      | error fault => cases verdict <;> simp [CompanionOf, read, scanned]
      | ok scanned => cases verdict <;> simp [CompanionOf, read, scanned, eq_comm]

theorem companions_of_prepared {verdicts : List (Option Artifact)}
    (prepared : (Logged.forEach (prepare fs home request) sources).result = .ok verdicts) :
    List.Forall₂ (CompanionOf fs request home) (used fs home sources) (verdicts.filterMap id) := by
  rw [Logged.forEach_ok_iff] at prepared
  induction prepared with
  | nil => exact .nil
  | @cons source verdict _ _ first _ ih =>
    rw [prepare_eq_ok_iff] at first
    cases verdict with
    | none =>
      have noText : ¬ hasText fs home source = true := by simp [hasText, first]
      rw [used, List.filter_cons_of_neg noText]
      exact ih
    | some artifact =>
      obtain ⟨text, companion⟩ := first
      rw [used, List.filter_cons_of_pos text]
      exact .cons companion ih

theorem prepared_of_companions
    (read : ∀ source ∈ sources, ∃ text, Source.read fs home source = .ok text)
    (companions : List.Forall₂ (CompanionOf fs request home) (used fs home sources) artifacts) :
    ∃ verdicts, (Logged.forEach (prepare fs home request) sources).result = .ok verdicts ∧
      verdicts.filterMap id = artifacts := by
  simp only [Logged.forEach_ok_iff]
  induction sources generalizing artifacts with
  | nil =>
    cases companions
    exact ⟨[], .nil, rfl⟩
  | cons source sources ih =>
    obtain ⟨⟨text, first⟩, read⟩ := List.forall_mem_cons.mp read
    by_cases holds : hasText fs home source = true
    · rw [used, List.filter_cons_of_pos holds] at companions
      cases companions with
      | cons companion companions =>
        obtain ⟨verdicts, prepared, rfl⟩ := ih read companions
        refine ⟨some _ :: verdicts, .cons (prepare_eq_ok_iff.mpr ?_) prepared, rfl⟩
        exact ⟨holds, companion⟩
    · rw [used, List.filter_cons_of_neg holds] at companions
      obtain ⟨verdicts, prepared, rfl⟩ := ih read companions
      have empty : Source.read fs home source = .ok [] := by
        cases text with
        | nil => exact first
        | cons => simp [hasText, first] at holds
      exact ⟨none :: verdicts, .cons (prepare_eq_ok_iff.mpr empty) prepared, rfl⟩

/-- A source is passed over, or has its companion. -/
theorem count_none_add_length (verdicts : List (Option Artifact)) :
    verdicts.count none + (verdicts.filterMap id).length = verdicts.length := by
  induction verdicts with
  | nil => rfl
  | cons verdict verdicts ih =>
    cases verdict with
    | none =>
      rw [List.count_cons_self, List.filterMap_cons_none rfl, List.length_cons, ← ih]
      omega
    | some artifact =>
      rw [List.count_cons_of_ne (by simp)]
      exact congrArg (· + 1) ih

/-- A plan is made exactly where the sources can be opened, located, read and scanned. -/
theorem plan_eq_ok_iff : (plan fs request).result = .ok planned ↔
    ∃ home, Planned fs request home planned := by
  have counted {home : Location} {verdicts : List (Option Artifact)} {sources : List SourceFile}
      (prepared : (Logged.forEach (prepare fs home request) sources).result = .ok verdicts) :
      verdicts.count none + (used fs home sources).length = sources.length := by
    rw [(companions_of_prepared prepared).length_eq, count_none_add_length]
    exact (Logged.forEach_ok_iff.mp prepared).length_eq.symm
  simp only [plan_result, bind_eq_ok_iff, pure, Except.pure, Except.ok.injEq]
  constructor
  · rintro ⟨home, opened, sources, located, verdicts, prepared, rfl⟩
    have located := Source.locate_eq_ok_iff.mp located
    exact ⟨home, opened, located, fun _ => Source.read_of_located located, counted prepared,
      companions_of_prepared prepared⟩
  · rintro ⟨home, opened, located, read, skipped, companions⟩
    have readable : ∀ source ∈ planned.sources, ∃ text, Source.read fs home source = .ok text := by
      intro source member
      obtain ⟨_, _, _, -, -, read⟩ := read source member
      exact ⟨_, read⟩
    obtain ⟨verdicts, prepared, same⟩ := prepared_of_companions readable companions
    have count : verdicts.count none = planned.skippedEmpty :=
      Nat.add_right_cancel ((counted prepared).trans skipped.symm)
    refine ⟨home, opened, planned.sources, Source.locate_eq_ok_iff.mpr located, verdicts, prepared, ?_⟩
    rw [same, count]

/-- The stages of a run that succeeds. -/
structure Completion (fs : FileSystem) (request : Request) (summary : Summary) where
  home : Location
  planned : Plan
  made : FileSystem
  directory : Location
  deliveries : List Delivery
  plan : Planned fs request home planned
  ensured : ensureDirectory fs (outputDir request.sourceDir request.vocabulary) =
    (made, .ok directory)
  delivers : Delivers directory made deliveries (generate fs request).fileSystem
  artifacts : deliveries.map Delivery.artifact = planned.artifacts
  counts : summary.discovered = planned.sources.length ∧
    summary.skippedEmpty = planned.skippedEmpty
  updated : summary.updated = (deliveries.filter (·.outcome == .updated)).map
    (Delivery.target (outputDir request.sourceDir request.vocabulary))
  unchanged : summary.unchanged = (deliveries.filter (·.outcome == .unchanged)).map
    (Delivery.target (outputDir request.sourceDir request.vocabulary))

theorem generate_of_plan (read : (Generate.plan fs request).result = .ok planned) :
    (generate fs request).result = (write fs request planned).result ∧
      (generate fs request).fileSystem = (write fs request planned).fileSystem := by
  simp only [generate, read, and_self]

theorem completion_of_generate (succeeded : (generate fs request).result = .ok summary) :
    Nonempty (Completion fs request summary) := by
  cases read : (Generate.plan fs request).result with
  | error error => simp [generate, read] at succeeded
  | ok planned =>
    obtain ⟨home, plan⟩ := plan_eq_ok_iff.mp read
    generalize ensured : ensureDirectory fs (outputDir request.sourceDir request.vocabulary) = state
    obtain ⟨made, error | directory⟩ := state
    · simp [generate, read, write, ensured] at succeeded
    · have reached : (generate fs request).fileSystem =
          (writeArtifacts directory (outputDir request.sourceDir request.vocabulary) made
            planned.artifacts).fileSystem := by simp [generate, read, write, ensured]
      simp only [generate, read, write, ensured] at succeeded
      cases wrote : (writeArtifacts directory (outputDir request.sourceDir request.vocabulary) made
          planned.artifacts).result with
      | error error => simp [wrote, Except.map] at succeeded
      | ok targets =>
        obtain ⟨deliveries, delivers, artifacts, rfl⟩ := delivers_of_writeArtifacts wrote
        rw [wrote, Except.map, Except.ok.injEq] at succeeded
        subst succeeded
        exact ⟨⟨home, planned, made, directory, deliveries, plan, ensured, reached ▸ delivers,
          artifacts, ⟨rfl, rfl⟩, by simp [List.filter_map, Function.comp_def],
          by simp [List.filter_map, Function.comp_def]⟩⟩

theorem fileNames_of_companions
    (companions : List.Forall₂ (CompanionOf fs request home) sources artifacts) :
    artifacts.map Artifact.fileName =
      (sources.map SourceFile.name).map (request.vocabulary.outputPrefix ++ ·) := by
  induction companions with
  | nil => rfl
  | cons companion _ ih =>
    obtain ⟨text, scanned, -, -, rfl⟩ := companion
    rw [List.map_cons, List.map_cons, List.map_cons, ih]
    rfl

namespace Completion

variable (completion : Completion fs request summary)

def names : List String :=
  (used fs completion.home completion.planned.sources).map SourceFile.name

theorem names_sublist : completion.names.Sublist
    (completion.planned.sources.map SourceFile.name) :=
  List.filter_sublist.map _

theorem names_nodup : completion.names.Nodup :=
  completion.plan.located.names_nodup.sublist completion.names_sublist

theorem names_valid {name : String} (member : name ∈ completion.names) :
    Path.isName (Utf8.bytes name) = true := by
  obtain ⟨source, known, rfl⟩ := List.mem_map.mp (completion.names_sublist.subset member)
  exact completion.plan.located.isName known

theorem fileNames : completion.deliveries.map (·.artifact.fileName) =
    completion.names.map (request.vocabulary.outputPrefix ++ ·) := by
  rw [names, ← fileNames_of_companions completion.plan.companions, ← completion.artifacts,
    List.map_map]
  rfl

theorem adds : AddsDirectories fs completion.made := by
  have adds := ensureDirectory_adds fs (outputDir request.sourceDir request.vocabulary)
  rwa [completion.ensured] at adds

/-- Without links in the output directory, no two companions share a place. -/
theorem places_nodup (free : fs.LinkFree completion.directory) :
    (completion.deliveries.map Delivery.place).Nodup :=
  completion.delivers.distinct (free.addsDirectories completion.adds) completion.fileNames
    (fun _ => completion.names_valid) completion.names_nodup

/-- Without links in the output directory, each companion is read back as it was written. -/
theorem reads (free : fs.LinkFree completion.directory) {delivery : Delivery}
    (member : delivery ∈ completion.deliveries) :
    (generate fs request).fileSystem.readFile (.beneath completion.directory)
      (Utf8.bytes delivery.artifact.fileName) = .ok delivery.bytes := by
  have distinct := completion.places_nodup free
  obtain ⟨written, found⟩ := completion.delivers.resolve distinct member
  exact readFile_eq_ok_iff.mpr ⟨delivery.place, written, found⟩

theorem targets : completion.deliveries.map
    (Delivery.target (outputDir request.sourceDir request.vocabulary)) =
    completion.names.map fun name => Path.join (outputDir request.sourceDir request.vocabulary)
      (outputFileName name request.vocabulary) := by
  have joined := congrArg
    (List.map (Path.join (outputDir request.sourceDir request.vocabulary))) completion.fileNames
  rw [List.map_map, List.map_map] at joined
  exact joined

theorem keepsTree (completion : Completion fs request summary) :
    KeepsTree fs (generate fs request).fileSystem :=
  completion.adds.keepsTree.trans completion.delivers.keepsTree

theorem opensDirectory : (generate fs request).fileSystem.openDirectory .anywhere
    (Utf8.bytes (outputDir request.sourceDir request.vocabulary)) = .ok completion.directory :=
  completion.delivers.keepsTree.openDirectory (openDirectory_of_ensureDirectory completion.ensured)

theorem targets_nodup : (completion.deliveries.map
    (Delivery.target (outputDir request.sourceDir request.vocabulary))).Nodup := by
  obtain ⟨stem, joined⟩ := Path.join_append (outputDir request.sourceDir request.vocabulary)
    request.vocabulary.outputPrefix
  have plain : ∀ name ∈ completion.names, '/' ∉ name.toList := by
    intro name member slash
    obtain ⟨-, plain, -⟩ := Path.isName_iff.mp (completion.names_valid member)
    exact plain (Utf8.slash_mem_bytes.mpr slash)
  rw [completion.targets]
  apply completion.names_nodup.map_on
  intro left known right other same
  rw [outputFileName, outputFileName, joined left (plain left known),
    joined right (plain right other)] at same
  exact (String.append_right_inj stem).mp same

/-- Every companion is reported once, as updated or as unchanged. -/
theorem reported : (summary.updated ++ summary.unchanged).Perm (completion.deliveries.map
    (Delivery.target (outputDir request.sourceDir request.vocabulary))) := by
  have other : (fun delivery : Delivery => delivery.outcome == .unchanged) =
      fun delivery => !(delivery.outcome == .updated) := by
    funext delivery
    cases delivery.outcome <;> rfl
  -- An outcome is one of the two, so the two filters share out the deliveries.
  rw [completion.updated, completion.unchanged, ← List.map_append, other]
  exact (List.filter_append_perm _ _).map _

end Completion

/-- What a run has done, from `fs` to `after`, to the sources in the directory `home` and to the
companions in `directory`. -/
structure Delivered (fs : FileSystem) (request : Request) (summary : Summary) (after : FileSystem)
    (home directory : Location) (sources : List SourceFile) (deliveries : List Delivery) : Prop where
  opened : Source.openDirectory fs request.sourceDir = .ok home
  located : Source.Located fs home request.sourceDir request.vocabulary sources
  /-- The text of each source is what the bytes at its place decode to, without carriage returns. -/
  read : ∀ source ∈ sources, ∃ place content written,
    Source.FoundAt fs home source place ∧ fs.get? place = some (.file content written) ∧
    Source.read fs home source = .ok (Text.withoutReturns (Utf8.decode content))
  /-- In order, each source with text has its companion, made from what the source was in `fs`. -/
  companions : List.Forall₂ (CompanionOf fs request home) (used fs home sources)
    (deliveries.map Delivery.artifact)
  output : after.openDirectory .anywhere
    (Utf8.bytes (outputDir request.sourceDir request.vocabulary)) = .ok directory
  content : ∀ delivery ∈ deliveries,
    after.readFile (.beneath directory) (Utf8.bytes delivery.artifact.fileName) = .ok delivery.bytes
  /-- The file that was read lies at the place of the delivery. -/
  place : ∀ delivery ∈ deliveries, ∃ written,
    after.resolve (.beneath directory) .find (Utf8.bytes delivery.artifact.fileName) =
      .ok (.present delivery.place (.file delivery.bytes written))
  distinct : (deliveries.map Delivery.place).Nodup
  discovered : summary.discovered = sources.length
  skippedEmpty : summary.skippedEmpty = sources.length - (used fs home sources).length
  updated : summary.updated = (deliveries.filter (·.outcome == .updated)).map
    (Delivery.target (outputDir request.sourceDir request.vocabulary))
  unchanged : summary.unchanged = (deliveries.filter (·.outcome == .unchanged)).map
    (Delivery.target (outputDir request.sourceDir request.vocabulary))
  disjoint : (summary.updated ++ summary.unchanged).Nodup
  /-- A companion counts as updated where no file with its bytes lay before the run. -/
  updated_iff : ∀ delivery ∈ deliveries, delivery.outcome = .updated ↔
    ∀ written, fs.get? delivery.place ≠ some (.file delivery.bytes written)
  others : ∀ place content written, place ∉ deliveries.map Delivery.place →
    (after.get? place = some (.file content written) ↔ fs.get? place = some (.file content written))

/-- **A successful run delivers.** Unless a symbolic link lies in the output directory, each source
with text has its companion there afterwards, rendered from the text before the run; the summary
counts and names what was done, and no other file has changed, appeared or gone. -/
theorem generate_delivers (succeeded : (generate fs request).result = .ok summary)
    (free : ∀ made directory,
      ensureDirectory fs (outputDir request.sourceDir request.vocabulary) = (made, .ok directory) →
        fs.LinkFree directory) :
    ∃ home directory sources deliveries, Delivered fs request summary
      (generate fs request).fileSystem home directory sources deliveries := by
  obtain ⟨completion⟩ := completion_of_generate succeeded
  have free := free _ _ completion.ensured
  have distinct := completion.places_nodup free
  have fileBefore (place : Location) (content : List UInt8) (written : Nat) :
      completion.made.get? place = some (.file content written) ↔
        fs.get? place = some (.file content written) := by
    constructor
    · intro lies
      exact completion.adds.origin lies (by simp)
    · exact completion.adds.keeps
  refine ⟨completion.home, completion.directory, completion.planned.sources,
    completion.deliveries, ?_⟩
  exact {
    opened := completion.plan.opened
    located := completion.plan.located
    read := completion.plan.read
    companions := completion.artifacts ▸ completion.plan.companions
    output := completion.opensDirectory
    content := fun _ => completion.reads free
    place := fun delivery member => completion.delivers.resolve distinct member
    distinct
    discovered := completion.counts.1
    skippedEmpty := completion.counts.2.trans (Nat.eq_sub_of_add_eq completion.plan.skipped)
    updated := completion.updated
    unchanged := completion.unchanged
    disjoint := completion.reported.nodup_iff.mpr completion.targets_nodup
    updated_iff := by
      intro delivery member
      simp only [completion.delivers.updated_iff distinct member, ne_eq, fileBefore]
    others := by
      intro place content written apart
      rw [completion.delivers.elsewhere apart, fileBefore] }

/-- An empty source, one with a test, and an old companion of it. -/
def sourceTree : FileSystem :=
  let home := [Utf8.bytes "s"]
  let directory := home ++ [Utf8.bytes "o"]
  let directories := (FileSystem.empty.set home .directory).set directory .directory
  ((directories.setFile (home ++ [Utf8.bytes "b"]) (Utf8.bytes "Cy\nTf")).setFile
    (home ++ [Utf8.bytes "a"]) []).setFile (directory ++ [Utf8.bytes "_b"]) (Utf8.bytes "old")

def sourceRequest : Request := ⟨"s", some "l", terse⟩

theorem generate_sourceTree :
    (generate sourceTree sourceRequest).result = .ok ⟨2, 1, ["s/o/_b"], []⟩ := by
  let content := "#define N l\n#include \"h\"\n\nC(y)\n\x7b\n\tT(f);\n\x7d\n\nB(y)\n\tR(y, f)\nE\n"
  let planned : Plan := ⟨[⟨"a", "s/a", false⟩, ⟨"b", "s/b", false⟩], 1, [⟨"b", "_b", content⟩]⟩
  have read : (plan sourceTree sourceRequest).result = .ok planned := by cbv
  rw [(generate_of_plan read).1]
  decide +kernel

theorem sourceTree_delivered : ∃ home directory sources deliveries,
    Delivered sourceTree sourceRequest ⟨2, 1, ["s/o/_b"], []⟩
      (generate sourceTree sourceRequest).fileSystem home directory sources deliveries :=
  generate_delivers generate_sourceTree fun _ directory _ => linkFree_of_all directory (by cbv)

end Registrar.Generate
