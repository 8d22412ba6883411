import Mathlib
import Registrar.Generate
import Registrar.Proofs.Output

/-! The writer called again. Reading and writing lead to one file by two ways of resolving the name,
also through links and where the file is made first, so that what is written is what is read
afterwards, and a second call with the same content finds nothing to do. -/
namespace Registrar.Output
open FileSystem

variable {fs after : FileSystem} {directory : Location} {root name content : String}

/-- The writer does no more than is needed. -/
structure Rewrites (fs : FileSystem) (directory : Location) (root name content : String) : Prop where
  /-- The file is left alone exactly where it has the content. -/
  unchanged_iff : ∀ after, writeIfChanged fs directory root name content = .ok (after, .unchanged) ↔
    fs.readFile (.beneath directory) (Utf8.bytes name) = .ok (Utf8.bytes content) ∧ after = fs
  /-- It is written where it has another one, or where there is none and it can be created. -/
  updated_iff : (∃ after, writeIfChanged fs directory root name content = .ok (after, .updated)) ↔
    (∃ old, fs.readFile (.beneath directory) (Utf8.bytes name) = .ok old ∧
      old ≠ Utf8.bytes content) ∨
    fs.readFile (.beneath directory) (Utf8.bytes name) = .error .notFound ∧
      ∃ place, fs.resolve (.beneath directory) .create (Utf8.bytes name) = .ok (.missing place)
  /-- Then the name leads to the content, at the place it led to before or where nothing lay, and
  nothing else has changed. -/
  updated : ∀ after, writeIfChanged fs directory root name content = .ok (after, .updated) →
    after.readFile (.beneath directory) (Utf8.bytes name) = .ok (Utf8.bytes content) ∧
    ∃ place, after.resolve (.beneath directory) .find (Utf8.bytes name) =
        .ok (.present place (.file (Utf8.bytes content) fs.clock)) ∧
      ((∃ old written, fs.resolve (.beneath directory) .find (Utf8.bytes name) =
          .ok (.present place (.file old written))) ∨ fs.get? place = none) ∧
      ∀ other, other ≠ place → after.get? other = fs.get? other
  /-- A failure leaves all as it was, and ends the run. -/
  refused : ∀ error, writeIfChanged fs directory root name content = .error error →
    (∃ reason, error = .io (Path.join root name) reason) ∧ ∀ source artifacts,
      Generate.writeArtifacts directory root fs (⟨source, name, content⟩ :: artifacts) =
        ⟨fs, [], .error error⟩
  /-- A second call finds nothing to do. -/
  again : ∀ after outcome, writeIfChanged fs directory root name content = .ok (after, outcome) →
    writeIfChanged after directory root name content = .ok (after, .unchanged)

/-- A place that was written holds the content, by the same name, and all other places are as they
were. -/
theorem resolve_setFile {place : Location} (leads : LeadsToFile fs directory name place)
    (bytes : List UInt8) :
    (fs.setFile place bytes).resolve (.beneath directory) .find (Utf8.bytes name) =
        .ok (.present place (.file bytes fs.clock)) ∧
      ∀ other, other ≠ place → (fs.setFile place bytes).get? other = fs.get? other :=
  ⟨leads.resolve (keepsTree_setFile bytes leads.isFree) (get?_setFile_same bytes leads.isFree),
    fun _ => get?_setFile_other bytes⟩

theorem readFile_of_writeIfChanged {outcome : WriteOutcome}
    (done : writeIfChanged fs directory root name content = .ok (after, outcome)) :
    after.readFile (.beneath directory) (Utf8.bytes name) = .ok (Utf8.bytes content) := by
  obtain ⟨place, leads, ⟨-, rfl, written, lies⟩ | ⟨-, rfl, -⟩⟩ := writeIfChanged_ok done
  · exact readFile_eq_ok_iff.mpr ⟨place, written, leads.resolve (.refl _) lies⟩
  · exact readFile_eq_ok_iff.mpr ⟨place, _, (resolve_setFile leads _).1⟩

theorem writeIfChanged_unchanged_iff :
    writeIfChanged fs directory root name content = .ok (after, .unchanged) ↔
      fs.readFile (.beneath directory) (Utf8.bytes name) = .ok (Utf8.bytes content) ∧ after = fs := by
  constructor
  · intro left
    have read := readFile_of_unchanged left
    rw [writeIfChanged_of_read read, Except.ok.injEq, Prod.mk.injEq] at left
    exact ⟨read, left.1.symm⟩
  · rintro ⟨read, rfl⟩
    exact writeIfChanged_of_read read

/-- What reading gives beforehand, and whether a file can be created, decide if there is a write. -/
theorem exists_updated_iff :
    (∃ after, writeIfChanged fs directory root name content = .ok (after, .updated)) ↔
      (∃ old, fs.readFile (.beneath directory) (Utf8.bytes name) = .ok old ∧
        old ≠ Utf8.bytes content) ∨
      fs.readFile (.beneath directory) (Utf8.bytes name) = .error .notFound ∧
        ∃ place, fs.resolve (.beneath directory) .create (Utf8.bytes name) =
          .ok (.missing place) := by
  have outcomes := written fs directory root name content
  generalize writeIfChanged fs directory root name content = result at outcomes ⊢
  cases outcomes with
  | kept read => simp [read]
  | replaced found differs =>
    have read := readFile_eq_ok_iff.mpr ⟨_, _, found⟩
    simp [read, differs]
  | created absent found => simp [absent, found]
  | uncreated absent none => simp [absent, none]
  | unreadable failed other => simp [failed, other]

/-- What a write leaves: at the place that the name leads to the content, and all else as it was. -/
theorem updated_leads (done : writeIfChanged fs directory root name content = .ok (after, .updated)) :
    ∃ place, after.resolve (.beneath directory) .find (Utf8.bytes name) =
        .ok (.present place (.file (Utf8.bytes content) fs.clock)) ∧
      ((∃ old written, fs.resolve (.beneath directory) .find (Utf8.bytes name) =
          .ok (.present place (.file old written))) ∨ fs.get? place = none) ∧
      ∀ other, other ≠ place → after.get? other = fs.get? other := by
  have outcomes := written fs directory root name content
  rw [done] at outcomes
  cases outcomes with
  | @replaced place old written found =>
    obtain ⟨leads, apart⟩ := resolve_setFile ⟨_, _, found, .file⟩ (Utf8.bytes content)
    exact ⟨place, leads, .inl ⟨old, written, found⟩, apart⟩
  | @created place _ found =>
    obtain ⟨leads, apart⟩ := resolve_setFile ⟨_, _, found, .create⟩ (Utf8.bytes content)
    exact ⟨place, leads, .inr (absent_of_resolve found), apart⟩

/-- **The writer is idempotent.** A file is left alone exactly where it has the content; where it is
written, its name leads to the content and all else is as it was; a failure changes nothing; and a
second call has nothing to do. -/
theorem writeIfChanged_rewrites (fs : FileSystem) (directory : Location)
    (root name content : String) : Rewrites fs directory root name content where
  unchanged_iff _ := writeIfChanged_unchanged_iff
  updated_iff := exists_updated_iff
  updated _ done := ⟨readFile_of_writeIfChanged done, updated_leads done⟩
  refused _ failed := by
    refine ⟨writeIfChanged_error failed, fun source artifacts => ?_⟩
    simp only [Generate.writeArtifacts, failed]
  again _ _ done := writeIfChanged_of_read (readFile_of_writeIfChanged done)

/-- A directory with a link to a file that is not there. -/
def danglingTree : FileSystem :=
  (FileSystem.empty.set [Utf8.bytes "d"] .directory).set [Utf8.bytes "d", Utf8.bytes "a"]
    (.link (Utf8.bytes "b"))

/-- The file is made through the link, which stays, and the second call finds it by the link. -/
theorem danglingTree_rewritten :
    let after := danglingTree.setFile [Utf8.bytes "d", Utf8.bytes "b"] (Utf8.bytes "text")
    writeIfChanged danglingTree [Utf8.bytes "d"] "d" "a" "text" = .ok (after, .updated) ∧
      after.readFile (.beneath [Utf8.bytes "d"]) (Utf8.bytes "a") = .ok (Utf8.bytes "text") ∧
      after.get? [Utf8.bytes "d", Utf8.bytes "a"] = some (.link (Utf8.bytes "b")) ∧
      writeIfChanged after [Utf8.bytes "d"] "d" "a" "text" = .ok (after, .unchanged) := by
  intro after
  have rewrites := writeIfChanged_rewrites danglingTree [Utf8.bytes "d"] "d" "a" "text"
  have done : writeIfChanged danglingTree [Utf8.bytes "d"] "d" "a" "text" = .ok (after, .updated) := by
    cbv
  exact ⟨done, (rewrites.updated after done).1, by decide, rewrites.again after _ done⟩

end Registrar.Output
