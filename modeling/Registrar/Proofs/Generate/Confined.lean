import Mathlib
import Registrar.Proofs.Generate.Delivery

/-! How far a run can come, and what it cannot reach. Whatever the links, the prefix and the paths
are, and however the run ends, it writes to files below the output directory and to no others. -/
namespace Registrar.Generate
open FileSystem Output

variable {fs before made after : FileSystem} {request : Request} {home directory : Location}
  {planned : Plan} {deliveries : List Delivery} {result : Except Error Summary} {output : String}

/-- How a run ends and where it leaves the file system: as it was, after reading failed; with
directories made, after the output directory could not be opened; with the artifacts delivered that
come before one that is refused; or with all of them. -/
inductive Course (fs : FileSystem) (request : Request) : FileSystem → Except Error Summary → Prop
  | unread {error : Error} (failed : ReadingFails fs request error) :
      Course fs request fs (.error error)
  | unopened {home : Location} {planned : Plan} {made : FileSystem} {error : Error}
      (plan : Planned fs request home planned)
      (failed : ensureDirectory fs (outputDir request.sourceDir request.vocabulary) =
        (made, .error error)) : Course fs request made (.error error)
  | refused {home directory : Location} {planned : Plan} {made after : FileSystem}
      {deliveries : List Delivery} {artifact : Artifact} {left : List Artifact} {error : Error}
      (plan : Planned fs request home planned)
      (ensured : ensureDirectory fs (outputDir request.sourceDir request.vocabulary) =
        (made, .ok directory))
      (delivers : Delivers directory made deliveries after)
      (parts : planned.artifacts = deliveries.map Delivery.artifact ++ artifact :: left)
      (refusal : writeIfChanged after directory (outputDir request.sourceDir request.vocabulary)
        artifact.fileName artifact.content = .error error) : Course fs request after (.error error)
  | completed {home directory : Location} {planned : Plan} {made after : FileSystem}
      {deliveries : List Delivery} {summary : Summary} (plan : Planned fs request home planned)
      (ensured : ensureDirectory fs (outputDir request.sourceDir request.vocabulary) =
        (made, .ok directory))
      (delivers : Delivers directory made deliveries after)
      (all : deliveries.map Delivery.artifact = planned.artifacts) :
      Course fs request after (.ok summary)

theorem course_of_generate (fs : FileSystem) (request : Request) :
    Course fs request (generate fs request).fileSystem (generate fs request).result := by
  cases read : (plan fs request).result with
  | error error =>
    have failed := plan_error_iff.mp read
    obtain ⟨result, fileSystem⟩ := generate_of_readingFails failed
    rw [result, fileSystem]
    exact .unread failed
  | ok planned =>
    obtain ⟨home, plan⟩ := plan_eq_ok_iff.mp read
    obtain ⟨result, fileSystem⟩ := generate_of_plan read
    rw [result, fileSystem]
    generalize ensured : ensureDirectory fs (outputDir request.sourceDir request.vocabulary) = state
    obtain ⟨made, error | directory⟩ := state
    · simp only [write, ensured]
      exact .unopened plan ensured
    · simp only [write, ensured]
      cases wrote : (writeArtifacts directory (outputDir request.sourceDir request.vocabulary) made
          planned.artifacts).result with
      | error error =>
        obtain ⟨deliveries, artifact, left, delivers, parts, refusal⟩ :=
          refused_of_writeArtifacts wrote
        exact .refused plan ensured delivers parts refusal
      | ok targets =>
        obtain ⟨deliveries, delivers, artifacts, -⟩ := delivers_of_writeArtifacts wrote
        exact .completed plan ensured delivers artifacts

/-- The place lies in the directory tree that the path opens, if it opens one. -/
def InTree (fs : FileSystem) (path : String) (place : Location) : Prop :=
  ∃ top, fs.openDirectory .anywhere (Utf8.bytes path) = .ok top ∧ isWithin top place = true

/-- No link comes or goes, no directory goes and, outside the tree that the output path opens
afterwards, the one change is that directories appear that were missing on that path. -/
structure Confined (output : String) (before after : FileSystem) : Prop where
  file : ∀ place content written, ¬ InTree after output place →
    (after.get? place = some (.file content written) ↔
      before.get? place = some (.file content written))
  added : ∀ place, ¬ InTree after output place → before.get? place = none →
    after.get? place = none ∨
      after.get? place = some .directory ∧ OpenedBy after (wayTo output) place
  link : SameLinks before after
  keeps : KeepsTree before after

theorem confined_of_grows (grows : GrowsAlong (wayTo output) before made)
    (links : SameLinks made after) (keeps : KeepsTree made after)
    (elsewhere : ∀ place, ¬ InTree after output place → after.get? place = made.get? place) :
    Confined output before after := by
  refine ⟨?_, ?_, grows.adds.sameLinks.trans links, grows.adds.keepsTree.trans keeps⟩
  · intro place content written outside
    rw [elsewhere place outside]
    constructor
    · intro lies
      exact grows.adds.origin lies (by simp)
    · exact grows.adds.keeps
  · intro place outside absent
    rw [elsewhere place outside]
    rcases grows.adds.entry place with unchanged | ⟨-, appeared⟩
    · exact .inl (unchanged.trans absent)
    · exact .inr ⟨appeared, (grows.opened place absent appeared).keepsTree keeps⟩

theorem confined_of_delivers (ensured : ensureDirectory fs output = (made, .ok directory))
    (delivers : Delivers directory made deliveries after) : Confined output fs after := by
  have grows := ensureDirectory_grows fs output
  rw [ensured] at grows
  refine confined_of_grows grows delivers.sameLinks delivers.keepsTree ?_
  intro place outside
  apply delivers.elsewhere
  -- The handle of the output directory is what its path opens afterwards too.
  have opened := delivers.keepsTree.openDirectory (openDirectory_of_ensureDirectory ensured)
  intro member
  obtain ⟨delivery, delivered, rfl⟩ := List.mem_map.mp member
  exact outside ⟨_, opened, delivers.within delivered⟩

theorem Course.confined (course : Course fs request after result) :
    Confined (outputDir request.sourceDir request.vocabulary) fs after := by
  cases course with
  | unread => exact confined_of_grows (.refl _ fs) (.refl fs) (.refl fs) fun _ _ => rfl
  | unopened _ failed =>
    have grows := ensureDirectory_grows fs (outputDir request.sourceDir request.vocabulary)
    rw [failed] at grows
    exact confined_of_grows grows (.refl _) (.refl _) fun _ _ => rfl
  | refused _ ensured delivers | completed _ ensured delivers =>
    exact confined_of_delivers ensured delivers

/-- The plan of a run is the only one. -/
theorem Planned.unique {others : Plan} (plan : Planned fs request home planned)
    (read : (Generate.plan fs request).result = .ok others) : planned = others :=
  Except.ok.inj ((plan_eq_ok_iff.mpr ⟨home, plan⟩).symm.trans read)

/-- A run with an artifact whose name leaves the output directory fails at one of its targets. -/
theorem Course.leaves (course : Course fs request after result)
    (read : (plan fs request).result = .ok planned)
    (ensured : ensureDirectory fs (outputDir request.sourceDir request.vocabulary) =
      (made, .ok directory)) {artifact : Artifact} (member : artifact ∈ planned.artifacts)
    (leaves : LeavesBy made directory (Path.parse (Utf8.bytes artifact.fileName))) :
    ∃ refused ∈ planned.artifacts, ∃ reason, result =
      .error (.io (Path.join (outputDir request.sourceDir request.vocabulary) refused.fileName)
        reason) := by
  cases course with
  | unread failed =>
    rw [plan_error_iff.mpr failed] at read
    cases read
  | unopened _ failed =>
    rw [failed] at ensured
    cases ensured
  | refused plan _ _ parts refusal =>
    obtain rfl := plan.unique read
    obtain ⟨reason, rfl⟩ := writeIfChanged_error refusal
    exact ⟨_, by simp [parts], reason, rfl⟩
  | completed plan opened delivers all =>
    -- The artifact was delivered, and by a name that leaves none can be.
    obtain rfl := plan.unique read
    cases opened.symm.trans ensured
    rw [← all] at member
    obtain ⟨delivery, delivered, rfl⟩ := List.mem_map.mp member
    exact absurd leaves (delivers.not_leaves delivered)

/-- **Writes are confined.** However a run ends, and whatever links there are, it changes no link and
no file outside the directory tree that the output path opens, and adds nothing outside that tree but
the directories missing on the path. A companion whose name or links lead out of the output directory
makes the run fail at one of its targets. -/
theorem generate_confined (fs : FileSystem) (request : Request) :
    Confined (outputDir request.sourceDir request.vocabulary) fs (generate fs request).fileSystem ∧
    ∀ planned made directory artifact, (plan fs request).result = .ok planned →
      ensureDirectory fs (outputDir request.sourceDir request.vocabulary) = (made, .ok directory) →
      artifact ∈ planned.artifacts →
      LeavesBy made directory (Path.parse (Utf8.bytes artifact.fileName)) →
      ∃ refused ∈ planned.artifacts, ∃ reason, (generate fs request).result =
        .error (.io (Path.join (outputDir request.sourceDir request.vocabulary) refused.fileName)
          reason) := by
  have course := course_of_generate fs request
  exact ⟨course.confined, fun _ _ _ _ read ensured => course.leaves read ensured⟩

/-- A source, and in the output directory a link in its companion's place that leads back to it. -/
def linkedTree : FileSystem :=
  let home := [Utf8.bytes "s"]
  let directory := home ++ [Utf8.bytes "o"]
  (((FileSystem.empty.set home .directory).set directory .directory).setFile
    (home ++ [Utf8.bytes "b"]) (Utf8.bytes "Cy\nTf")).set
    (directory ++ [Utf8.bytes "_b"]) (.link (Utf8.bytes "../b"))

/-- The run fails, and the source at the end of the link is as it was. -/
theorem linkedTree_confined :
    (∃ reason, (generate linkedTree sourceRequest).result = .error (.io "s/o/_b" reason)) ∧
      (generate linkedTree sourceRequest).fileSystem.get? [Utf8.bytes "s", Utf8.bytes "b"] =
        some (.file (Utf8.bytes "Cy\nTf") 1) := by
  obtain ⟨confined, fails⟩ := generate_confined linkedTree sourceRequest
  have output : outputDir sourceRequest.sourceDir sourceRequest.vocabulary = "s/o" := by
    decide +kernel
  rw [output] at confined fails
  let directory := [Utf8.bytes "s", Utf8.bytes "o"]
  have opened : linkedTree.openDirectory .anywhere (Utf8.bytes "s/o") = .ok directory := by
    decide +kernel
  have outside : ¬ InTree (generate linkedTree sourceRequest).fileSystem "s/o"
      [Utf8.bytes "s", Utf8.bytes "b"] := by
    rintro ⟨top, found, inside⟩
    rw [confined.keeps.openDirectory opened, Except.ok.injEq] at found
    subst found
    revert inside
    decide
  constructor
  · let content := "#define N l\n#include \"h\"\n\nC(y)\n\x7b\n\tT(f);\n\x7d\n\nB(y)\n\tR(y, f)\nE\n"
    let planned : Plan := ⟨[⟨"b", "s/b", false⟩], 0, [⟨"b", "_b", content⟩]⟩
    have read : (plan linkedTree sourceRequest).result = .ok planned := by cbv
    have link : linkedTree.get? (directory ++ [Utf8.bytes "_b"]) =
        some (.link (Utf8.bytes "../b")) := by decide
    have leaves : LeavesBy linkedTree directory (Path.parse (Utf8.bytes "_b")) :=
      .inr (.follow link (by decide) .up)
    obtain ⟨refused, member, reason, failed⟩ := fails planned linkedTree directory
      ⟨"b", "_b", content⟩ read (ensureDirectory_of_open opened) (by simp [planned]) leaves
    have target : Path.join "s/o" "_b" = "s/o/_b" := by decide +kernel
    rw [List.mem_singleton.mp member, target] at failed
    exact ⟨reason, failed⟩
  · exact (confined.file _ _ _ outside).mpr (by decide)

end Registrar.Generate
