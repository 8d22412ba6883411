import Mathlib
import Registrar.Proofs.Generate.Confined

/-! What a run does to the sources it reads. Nothing compares the targets of companions with them: a
source keeps its bytes unless a companion is written whose target opens its very file. -/
namespace Registrar.Generate
open FileSystem Output

variable {fs made after : FileSystem} {request : Request} {home directory place : Location}
  {sources : List SourceFile} {source : SourceFile} {content : List UInt8} {written : Nat}
  {result : Except Error Summary} {deliveries : List Delivery} {delivery : Delivery}

/-- In the file system that a run leaves, the target of the artifact opens the file at the place. -/
def Opens (request : Request) (after : FileSystem) (place : Location) (artifact : Artifact) : Prop :=
  ∃ directory content written, after.openDirectory .anywhere
      (Utf8.bytes (outputDir request.sourceDir request.vocabulary)) = .ok directory ∧
    after.resolve (.beneath directory) .find (Utf8.bytes artifact.fileName) =
      .ok (.present place (.file content written))

/-- The companions that a run has written, or found to be there already, in their order: none, if it
fails before; those before the one that it is refused; or those of all sources with text. The target
of each of them opens a file in what the run leaves. -/
inductive Wrote (fs : FileSystem) (request : Request) (home : Location) (sources : List SourceFile)
    (after : FileSystem) : Except Error Summary → List Artifact → Prop
  | none {error : Error}
      (failed : ReadingFails fs request error ∨
        ensureDirectory fs (outputDir request.sourceDir request.vocabulary) =
          (after, .error error)) : Wrote fs request home sources after (.error error) []
  | some {error : Error} {directory : Location} {done left : List Artifact} {refused : Artifact}
      (companions : List.Forall₂ (CompanionOf fs request home) (used fs home sources)
        (done ++ refused :: left))
      (delivered : ∀ artifact ∈ done, ∃ place, Opens request after place artifact)
      (opened : after.openDirectory .anywhere
        (Utf8.bytes (outputDir request.sourceDir request.vocabulary)) = .ok directory)
      (refusal : writeIfChanged after directory (outputDir request.sourceDir request.vocabulary)
        refused.fileName refused.content = .error error) :
      Wrote fs request home sources after (.error error) done
  | all {summary : Summary} {done : List Artifact}
      (companions : List.Forall₂ (CompanionOf fs request home) (used fs home sources) done)
      (delivered : ∀ artifact ∈ done, ∃ place, Opens request after place artifact) :
      Wrote fs request home sources after (.ok summary) done

/-- What the file at a place, with `content` at first, holds when the artifacts have been written:
what it held, if no target of theirs opens it, and else the last of those whose targets do. -/
inductive Overwritten (request : Request) (after : FileSystem) (place : Location)
    (content : List UInt8) : List Artifact → List UInt8 → Prop
  | never {done : List Artifact} (none : ∀ artifact ∈ done, ¬ Opens request after place artifact) :
      Overwritten request after place content done content
  | last {earlier later : List Artifact} {artifact : Artifact}
      (opens : Opens request after place artifact)
      (last : ∀ other ∈ later, ¬ Opens request after place other) :
      Overwritten request after place content (earlier ++ artifact :: later)
        (Utf8.bytes artifact.content)

/-- The targets that open a place are those of the deliveries to it. -/
theorem Delivers.opens_iff (delivers : Delivers directory made deliveries after)
    (opened : after.openDirectory .anywhere
      (Utf8.bytes (outputDir request.sourceDir request.vocabulary)) = .ok directory)
    (member : delivery ∈ deliveries) :
    Opens request after place delivery.artifact ↔ delivery.place = place := by
  obtain ⟨content, written, found⟩ := delivers.finds member
  constructor
  · rintro ⟨other, _, _, again, leads⟩
    cases opened.symm.trans again
    cases found.symm.trans leads
    rfl
  · rintro rfl
    exact ⟨directory, content, written, opened, found⟩

theorem Delivers.opened (delivers : Delivers directory made deliveries after)
    (opened : after.openDirectory .anywhere
      (Utf8.bytes (outputDir request.sourceDir request.vocabulary)) = .ok directory) :
    ∀ artifact ∈ deliveries.map Delivery.artifact, ∃ place, Opens request after place artifact := by
  intro artifact member
  obtain ⟨delivery, known, rfl⟩ := List.mem_map.mp member
  exact ⟨delivery.place, (delivers.opens_iff opened known).mpr rfl⟩

theorem Delivers.overwritten (delivers : Delivers directory made deliveries after)
    (ensured : ensureDirectory fs (outputDir request.sourceDir request.vocabulary) =
      (made, .ok directory)) (lies : fs.get? place = some (.file content written)) :
    ∃ bytes stamp, after.get? place = some (.file bytes stamp) ∧
      Overwritten request after place content (deliveries.map Delivery.artifact) bytes := by
  have opened := delivers.keepsTree.openDirectory (openDirectory_of_ensureDirectory ensured)
  by_cases reached : place ∈ deliveries.map Delivery.place
  · obtain ⟨earlier, delivery, later, rfl, rfl, last⟩ := exists_last_delivery reached
    obtain ⟨stamp, found⟩ := delivers.last last
    refine ⟨delivery.bytes, stamp, lies_of_resolve found, ?_⟩
    rw [List.map_append, List.map_cons]
    refine .last ((delivers.opens_iff opened (by simp)).mpr rfl) ?_
    intro artifact member opens
    obtain ⟨other, known, rfl⟩ := List.mem_map.mp member
    have same := (delivers.opens_iff opened (by simp [known])).mp opens
    exact last (same ▸ List.mem_map_of_mem known)
  · refine ⟨content, written, ?_, .never ?_⟩
    · rw [delivers.elsewhere reached]
      exact (adds_of_ensured ensured).keeps lies
    · intro artifact member opens
      obtain ⟨delivery, known, rfl⟩ := List.mem_map.mp member
      have same := (delivers.opens_iff opened known).mp opens
      exact reached (same ▸ List.mem_map_of_mem known)

/-- The artifacts of a plan are the companions of the sources that are located. -/
theorem Planned.companions_located {there : Location} {planned : Plan}
    (plan : Planned fs request there planned)
    (opened : Source.openDirectory fs request.sourceDir = .ok home)
    (located : Source.Located fs home request.sourceDir request.vocabulary sources) :
    List.Forall₂ (CompanionOf fs request home) (used fs home sources) planned.artifacts := by
  cases opened.symm.trans plan.opened
  obtain rfl := located.unique plan.located
  exact plan.companions

/-- A file that lay there before a run lies there still, overwritten or not by what the run wrote. -/
theorem Course.overwritten (course : Course fs request after result)
    (opened : Source.openDirectory fs request.sourceDir = .ok home)
    (located : Source.Located fs home request.sourceDir request.vocabulary sources)
    (lies : fs.get? place = some (.file content written)) :
    ∃ done bytes stamp, Wrote fs request home sources after result done ∧
      after.get? place = some (.file bytes stamp) ∧
      Overwritten request after place content done bytes := by
  cases course with
  | unread failed => exact ⟨[], content, written, .none (.inl failed), lies, .never (by simp)⟩
  | unopened _ failed =>
    have still := (adds_of_ensured failed).keeps lies
    exact ⟨[], content, written, .none (.inr failed), still, .never (by simp)⟩
  | refused plan ensured delivers parts refusal =>
    obtain ⟨bytes, stamp, still, overwritten⟩ := delivers.overwritten ensured lies
    have output := delivers.keepsTree.openDirectory (openDirectory_of_ensureDirectory ensured)
    have companions := parts ▸ plan.companions_located opened located
    have wrote := Wrote.some companions (delivers.opened output) output refusal
    exact ⟨_, bytes, stamp, wrote, still, overwritten⟩
  | completed plan ensured delivers all =>
    obtain ⟨bytes, stamp, still, overwritten⟩ := delivers.overwritten ensured lies
    have output := delivers.keepsTree.openDirectory (openDirectory_of_ensureDirectory ensured)
    have companions := all ▸ plan.companions_located opened located
    exact ⟨_, bytes, stamp, .all companions (delivers.opened output), still, overwritten⟩

/-- Where the output directory is an entry of the source directory and no link stands for it, no
file among the entries lies in the tree that is written to. -/
theorem Course.beside {name : Name} (course : Course fs request after result)
    (opened : Source.openDirectory fs request.sourceDir = .ok home)
    (component : Path.IsComponent request.vocabulary.outputDir)
    (noLink : ∀ target, fs.get? (home ++ [Utf8.bytes request.vocabulary.outputDir]) ≠
      some (.link target))
    (lies : after.get? (home ++ [name]) = some (.file content written)) :
    ¬ InTree after (outputDir request.sourceDir request.vocabulary) (home ++ [name]) := by
  rintro ⟨top, joined, inside⟩
  have still := course.confined.keeps.openDirectory (Source.openDirectory_eq_ok_iff.mp opened)
  obtain ⟨rfl, directory⟩ := place_of_join component still
    (fun target link => noLink target ((course.confined.link _ _).mp link)) joined
  have same := (isWithin_iff.mp inside).eq_of_length (by simp)
  rw [same, lies] at directory
  cases directory

/-- What becomes of a source at `place` in a run that writes the companions `done` and ends with
`result` in `after`: its bytes were `content`, and are `bytes` then. -/
structure SourceFate (fs : FileSystem) (request : Request) (home : Location)
    (sources : List SourceFile) (after : FileSystem) (result : Except Error Summary)
    (done : List Artifact) (source : SourceFile) (place : Location) (content bytes : List UInt8) :
    Prop where
  found : Source.FoundAt fs home source place
  before : Source.readBytes fs home source = .ok content
  now : Source.readBytes after home source = .ok bytes
  wrote : Wrote fs request home sources after result done
  overwritten : Overwritten request after place content done bytes
  outside : ¬ InTree after (outputDir request.sourceDir request.vocabulary) place → bytes = content
  /-- So it is with the output directory of the profiles, for a source that is no link. -/
  beside : source.linked = false → Path.IsComponent request.vocabulary.outputDir →
    (∀ target, fs.get? (home ++ [Utf8.bytes request.vocabulary.outputDir]) ≠
      some (.link target)) → bytes = content

/-- **Sources survive where no target is one of them.** However a run ends, each source that it located
can be read and has the bytes it had, unless the target of a companion that was written opens its very
file; then the source holds the last of these companions. No target does so outside the tree that the
output path opens, and none opens an entry of the source directory while the output directory is
another, with no link in its place. -/
theorem generate_source_fate (opened : Source.openDirectory fs request.sourceDir = .ok home)
    (located : (Source.locate fs home request.sourceDir request.vocabulary).result = .ok sources)
    (member : source ∈ sources) : ∃ done place content bytes,
      SourceFate fs request home sources (generate fs request).fileSystem
        (generate fs request).result done source place content bytes := by
  have located := Source.locate_eq_ok_iff.mp located
  have course := course_of_generate fs request
  have named := located.isName member
  obtain ⟨place, content, written, found, lies⟩ := Source.foundAt_of_located located member
  obtain ⟨done, bytes, stamp, wrote, still, overwritten⟩ := course.overwritten opened located lies
  have outside (apart : ¬ InTree (generate fs request).fileSystem
      (outputDir request.sourceDir request.vocabulary) place) : bytes = content := by
    have same := (course.confined.file place content written apart).mpr lies
    rw [still, Option.some.injEq, Entry.file.injEq] at same
    exact same.1
  refine ⟨done, place, content, bytes, found, found.readBytes named (.refl fs) lies,
    found.readBytes named course.confined.keeps still, wrote, overwritten, outside, ?_⟩
  intro unlinked component noLink
  cases found with
  | link => cases unlinked
  | entry => exact outside (course.beside opened component noLink still)

/-- The source is no link, and no link stands for the output directory. -/
theorem sourceTree_spared :
    Source.readBytes (generate sourceTree sourceRequest).fileSystem [Utf8.bytes "s"]
      ⟨"b", "s/b", false⟩ = .ok (Utf8.bytes "Cy\nTf") := by
  let sources : List SourceFile := [⟨"a", "s/a", false⟩, ⟨"b", "s/b", false⟩]
  have opened : Source.openDirectory sourceTree sourceRequest.sourceDir = .ok [Utf8.bytes "s"] := by
    cbv
  have located : (Source.locate sourceTree [Utf8.bytes "s"] sourceRequest.sourceDir
      sourceRequest.vocabulary).result = .ok sources := by cbv
  have member : ⟨"b", "s/b", false⟩ ∈ sources := by simp [sources]
  have read : Source.readBytes sourceTree [Utf8.bytes "s"] ⟨"b", "s/b", false⟩ =
      .ok (Utf8.bytes "Cy\nTf") := by cbv
  obtain ⟨done, place, content, bytes, fate⟩ := generate_source_fate opened located member
  cases fate.before.symm.trans read
  have same := fate.beside rfl (by simp [Path.IsComponent, sourceRequest, terse])
    (fun target => linkFree_of_all [] (by cbv) _ target rfl)
  exact same ▸ fate.now

/-- Settings under which each source is the target of its own companion. -/
def ownTargets : Overrides := { outputDir := some ".", outputPrefix := some "" }

def loneSource : FileSystem :=
  (FileSystem.empty.set [Utf8.bytes "src"] .directory).setFile
    [Utf8.bytes "src", Utf8.bytes "a.cpp"] (Utf8.bytes "HTEST_CLASS(A)")

/-- Not every source survives under every setting: a companion may be written over its source. -/
theorem source_not_always_spared : ¬ ∀ (fs : FileSystem) (profile : Profile)
    (overrides : Overrides) (sourceDir : String) (namespaceOverride : Option String)
    (home : Location) (sources : List SourceFile), ∀ source ∈ sources,
    let request : Request :=
      ⟨sourceDir, namespaceOverride, profile.vocabulary.apply overrides⟩
    Source.openDirectory fs sourceDir = .ok home →
      (Source.locate fs home sourceDir request.vocabulary).result = .ok sources →
      Source.readBytes (generate fs request).fileSystem home source =
        Source.readBytes fs home source := by
  intro spared
  let source : SourceFile := ⟨"a.cpp", "src/a.cpp", false⟩
  let request : Request := ⟨"src", some "l", Profile.htest.vocabulary.apply ownTargets⟩
  have same := spared loneSource .htest ownTargets "src" (some "l") [Utf8.bytes "src"] [source]
    source List.mem_cons_self (by cbv) (by cbv)
  have before : Source.readBytes loneSource [Utf8.bytes "src"] source =
      .ok (Utf8.bytes "HTEST_CLASS(A)") := by cbv
  let content := "#define __HTEST_LIB_NAME l\n#include \"htest.h\"\n\nHTEST_CLASS(A)\n\x7b\n\x7d\n\n" ++
    "HTEST_RUN_CLASS_BEGIN(A)\nHTEST_RUN_CLASS_END\n"
  let planned : Plan := ⟨[source], 0, [⟨"a.cpp", "a.cpp", content⟩]⟩
  have read : (plan loneSource request).result = .ok planned := by cbv
  have after : Source.readBytes (generate loneSource request).fileSystem [Utf8.bytes "src"] source =
      .ok (Utf8.bytes content) := by
    rw [(generate_of_plan read).2]
    decide +kernel
  rw [before, after, Except.ok.injEq] at same
  exact absurd (Utf8.bytes_injective same) (by decide +kernel)

end Registrar.Generate
