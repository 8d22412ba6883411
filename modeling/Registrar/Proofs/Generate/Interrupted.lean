import Mathlib
import Registrar.Proofs.Generate.Confined

/-! A run that fails while it writes. What it has written by then are the companions before the one
that is refused, each complete; the files at the targets of the others are as they were. -/
namespace Registrar.Generate
open FileSystem Output

variable {fs made after : FileSystem} {request : Request} {home directory : Location}
  {sources : List SourceFile} {artifacts left : List Artifact} {planned : Plan} {error : Error}
  {deliveries : List Delivery} {artifact refused : Artifact}

theorem sources_of_companions
    (companions : List.Forall₂ (CompanionOf fs request home) sources artifacts) :
    artifacts.map Artifact.source = sources.map SourceFile.name := by
  induction companions with
  | nil => rfl
  | cons companion _ ih =>
    obtain ⟨text, scanned, -, -, rfl⟩ := companion
    rw [List.map_cons, List.map_cons, ih]
    rfl

namespace Planned

variable (plan : Planned fs request home planned)
include plan

/-- The companions stand in the order of the names of their sources. -/
theorem ordered : planned.artifacts.Pairwise fun first second =>
    Utf8.bytes first.source < Utf8.bytes second.source := by
  have sorted : ((used fs home planned.sources).map SourceFile.name).Pairwise fun first second =>
      Utf8.bytes first < Utf8.bytes second :=
    List.pairwise_map.mpr (plan.located.sorted.sublist List.filter_sublist)
  rwa [← sources_of_companions plan.companions, List.pairwise_map] at sorted

theorem sources_nodup : (planned.artifacts.map Artifact.source).Nodup := by
  rw [sources_of_companions plan.companions]
  exact plan.located.names_nodup.sublist (List.filter_sublist.map _)

theorem fileName (member : artifact ∈ planned.artifacts) :
    artifact.fileName = request.vocabulary.outputPrefix ++ artifact.source ∧
      Path.isName (Utf8.bytes artifact.source) = true := by
  obtain ⟨source, known, text, scanned, -, -, rfl⟩ :=
    exists_of_forall₂ plan.companions.flip member
  exact ⟨rfl, plan.located.isName (List.mem_of_mem_filter known)⟩

/-- Without links, the first companions are delivered to places of their own, and the names of the
others lead to none of these. -/
theorem apart (parts : planned.artifacts = deliveries.map Delivery.artifact ++ left)
    (delivers : Delivers directory made deliveries after) (free : made.LinkFree directory) :
    (deliveries.map Delivery.place).Nodup ∧
      ∀ artifact ∈ left, ∀ (there : FileSystem) (place : Location), there.LinkFree directory →
        LeadsToFile there directory artifact.fileName place →
        place ∉ deliveries.map Delivery.place := by
  have known {delivery : Delivery} (member : delivery ∈ deliveries) :
      delivery.artifact ∈ planned.artifacts := by
    rw [parts]
    exact List.mem_append_left _ (List.mem_map_of_mem member)
  have called : deliveries.map (·.artifact.fileName) =
      (deliveries.map (·.artifact.source)).map (request.vocabulary.outputPrefix ++ ·) := by
    rw [List.map_map, List.map_inj_left]
    intro delivery member
    exact (plan.fileName (known member)).1
  have valid : ∀ name ∈ deliveries.map (·.artifact.source),
      Path.isName (Utf8.bytes name) = true := by
    intro name among
    obtain ⟨delivery, member, rfl⟩ := List.mem_map.mp among
    exact (plan.fileName (known member)).2
  have different := plan.sources_nodup
  rw [parts, List.map_append, List.map_map, List.nodup_append] at different
  constructor
  · exact delivers.distinct free called valid different.1
  · intro artifact waits there place freeThere leads
    have planned : artifact ∈ planned.artifacts := by simp [parts, waits]
    obtain ⟨name, validName⟩ := plan.fileName planned
    rw [name] at leads
    apply delivers.apart free called valid ?_ validName freeThere leads
    intro among
    exact different.2.2 _ among _ (List.mem_map_of_mem waits) rfl

end Planned

/-- A run that was refused a companion, in the file system that it left. -/
structure Interrupted (fs : FileSystem) (request : Request) (home : Location) (planned : Plan)
    (error : Error) (after : FileSystem) (directory : Location) (deliveries : List Delivery)
    (refused : Artifact) (left : List Artifact) : Prop where
  /-- In order, each source with text has its companion, made from what the source was in `fs`. -/
  plan : Planned fs request home planned
  ensured : ∃ made, ensureDirectory fs (outputDir request.sourceDir request.vocabulary) =
    (made, .ok directory)
  parts : planned.artifacts = deliveries.map Delivery.artifact ++ refused :: left
  ordered : planned.artifacts.Pairwise fun first second =>
    Utf8.bytes first.source < Utf8.bytes second.source
  refusal : writeIfChanged after directory (outputDir request.sourceDir request.vocabulary)
    refused.fileName refused.content = .error error
  /-- The name of each companion before the refused one leads to the file with its content. -/
  delivered : ∀ delivery ∈ deliveries, ∃ written,
    after.resolve (.beneath directory) .find (Utf8.bytes delivery.artifact.fileName) =
      .ok (.present delivery.place (.file delivery.bytes written))
  /-- Wherever the name of another leads, the same file lies there as before, or none. -/
  waiting : ∀ artifact ∈ refused :: left, ∀ place,
    LeadsToFile after directory artifact.fileName place → ∀ content written,
      (after.get? place = some (.file content written) ↔
        fs.get? place = some (.file content written))
  /-- What could be read there before the run is read there still. -/
  read : ∀ artifact ∈ refused :: left, ∀ content,
    fs.readFile (.beneath directory) (Utf8.bytes artifact.fileName) = .ok content →
      after.readFile (.beneath directory) (Utf8.bytes artifact.fileName) = .ok content
  others : ∀ place content written, place ∉ deliveries.map Delivery.place →
    (after.get? place = some (.file content written) ↔ fs.get? place = some (.file content written))

theorem interrupted_of_refused (plan : Planned fs request home planned)
    (ensured : ensureDirectory fs (outputDir request.sourceDir request.vocabulary) =
      (made, .ok directory))
    (free : fs.LinkFree directory) (delivers : Delivers directory made deliveries after)
    (parts : planned.artifacts = deliveries.map Delivery.artifact ++ refused :: left)
    (refusal : writeIfChanged after directory (outputDir request.sourceDir request.vocabulary)
      refused.fileName refused.content = .error error) :
    Interrupted fs request home planned error after directory deliveries refused left := by
  have adds : AddsDirectories fs made := adds_of_ensured ensured
  have freeMade : made.LinkFree directory := free.addsDirectories adds
  obtain ⟨distinct, apart⟩ := plan.apart parts delivers freeMade
  have others {place : Location} {content : List UInt8} {written : Nat}
      (untouched : place ∉ deliveries.map Delivery.place) :
      after.get? place = some (.file content written) ↔
        fs.get? place = some (.file content written) := by
    rw [delivers.elsewhere untouched]
    exact adds.sameFiles place content written
  refine ⟨plan, ⟨made, ensured⟩, parts, plan.ordered, refusal, ?_, ?_, ?_, ?_⟩
  · intro delivery member
    exact delivers.resolve distinct member
  · intro artifact waits place leads content written
    exact others (apart artifact waits after place (delivers.linkFree freeMade) leads)
  · intro artifact waits content read
    obtain ⟨place, written, found⟩ := readFile_eq_ok_iff.mp read
    have leads : LeadsToFile fs directory artifact.fileName place := ⟨_, _, found, .file⟩
    have lies := (others (apart artifact waits fs place free leads)).mpr (lies_of_resolve found)
    have keeps := adds.keepsTree.trans delivers.keepsTree
    exact readFile_eq_ok_iff.mpr ⟨place, written, leads.resolve keeps lies⟩
  · intro place content written untouched
    exact others untouched

/-- **A run that fails while it writes leaves a clean prefix.** If the output directory cannot be
opened, no file comes, goes or changes. If a companion is refused, those before it are there as
rendered, and every other file is as it was, those at the targets of the refused one and of the
later ones included. -/
theorem generate_interrupted (read : (plan fs request).result = .ok planned)
    (failed : (generate fs request).result = .error error)
    (free : ∀ made directory,
      ensureDirectory fs (outputDir request.sourceDir request.vocabulary) = (made, .ok directory) →
        fs.LinkFree directory) :
    (∃ path reason, error = .io path reason) ∧
    (ensureDirectory fs (outputDir request.sourceDir request.vocabulary) =
          ((generate fs request).fileSystem, .error error) ∧
        SameFiles fs (generate fs request).fileSystem ∨
      ∃ home directory deliveries refused left, Interrupted fs request home planned error
        (generate fs request).fileSystem directory deliveries refused left) := by
  have course := course_of_generate fs request
  rw [failed] at course
  generalize (generate fs request).fileSystem = after at course ⊢
  cases course with
  | unread failing =>
    rw [plan_error_iff.mpr failing] at read
    cases read
  | unopened _ unopened =>
    obtain ⟨reason, rfl⟩ := ensureDirectory_error unopened
    exact ⟨⟨_, reason, rfl⟩, .inl ⟨unopened, (adds_of_ensured unopened).sameFiles⟩⟩
  | refused plan ensured delivers parts refusal =>
    obtain rfl := plan.unique read
    exact ⟨⟨_, writeIfChanged_error refusal⟩, .inr ⟨_, _, _, _, _,
      interrupted_of_refused plan ensured (free _ _ ensured) delivers parts refusal⟩⟩

/-- Three sources, with a directory in the place of the second companion and an old third one. -/
def blockedTree : FileSystem :=
  let home := [Utf8.bytes "s"]
  let directory := home ++ [Utf8.bytes "o"]
  let directories := ((FileSystem.empty.set home .directory).set directory .directory).set
    (directory ++ [Utf8.bytes "_b"]) .directory
  (((directories.setFile (home ++ [Utf8.bytes "a"]) (Utf8.bytes "Cx")).setFile
    (home ++ [Utf8.bytes "b"]) (Utf8.bytes "Cy")).setFile
    (home ++ [Utf8.bytes "c"]) (Utf8.bytes "Cz")).setFile
    (directory ++ [Utf8.bytes "_c"]) (Utf8.bytes "old")

theorem blockedTree_interrupted : ∃ home planned directory deliveries refused left,
    Interrupted blockedTree sourceRequest home planned (.io "s/o/_b" .isDirectory)
      (generate blockedTree sourceRequest).fileSystem directory deliveries refused left := by
  let content (suite : String) := "#define N l\n#include \"h\"\n\nC(" ++ suite ++
    ")\n\x7b\n\x7d\n\nB(" ++ suite ++ ")\nE\n"
  let planned : Plan := ⟨[⟨"a", "s/a", false⟩, ⟨"b", "s/b", false⟩, ⟨"c", "s/c", false⟩], 0,
    [⟨"a", "_a", content "x"⟩, ⟨"b", "_b", content "y"⟩, ⟨"c", "_c", content "z"⟩]⟩
  have read : (plan blockedTree sourceRequest).result = .ok planned := by cbv
  have failed : (generate blockedTree sourceRequest).result =
      .error (.io "s/o/_b" .isDirectory) := by
    rw [(generate_of_plan read).1]
    decide +kernel
  have output : outputDir sourceRequest.sourceDir sourceRequest.vocabulary = "s/o" := by
    decide +kernel
  have opened : blockedTree.openDirectory .anywhere (Utf8.bytes "s/o") =
      .ok [Utf8.bytes "s", Utf8.bytes "o"] := by decide +kernel
  obtain ⟨-, unopened | ⟨home, directory, deliveries, refused, left, stopped⟩⟩ :=
    generate_interrupted read failed fun _ directory _ => linkFree_of_all directory (by cbv)
  · rw [output, ensureDirectory_of_open opened] at unopened
    cases congrArg Prod.snd unopened.1
  · exact ⟨home, planned, directory, deliveries, refused, left, stopped⟩

end Registrar.Generate
