import Registrar.Output
import Registrar.Proofs.FileSystem.Confinement
import Registrar.Proofs.FileSystem.Way

/-! What the writer does to the file system: which directories it makes, and which one file it
changes, if any. -/
namespace Registrar.Output
open FileSystem

variable {fs made after : FileSystem} {place directory : Location} {path root name content : String}

/-- What there is afterwards is what was there, or what making the directories left. -/
theorem ensureDirectory_state (fs : FileSystem) (path : String) :
    (ensureDirectory fs path).1 = fs ∨
      (ensureDirectory fs path).1 = (fs.makeDirectories (Path.parse (Utf8.bytes path))).1 := by
  simp only [ensureDirectory]
  split
  · exact .inl rfl
  · split
    · rename_i making
      exact .inr (by rw [making])
    · rename_i making
      split <;> exact .inr (by rw [making])
  · exact .inl rfl

/-- The path, and the paths above it. -/
def wayTo (path : String) : List Path :=
  let path := Path.parse (Utf8.bytes path)
  path :: path.parents

/-- Opening a directory adds what is missing on the way to it, also when it fails. -/
theorem ensureDirectory_grows (fs : FileSystem) (path : String) :
    GrowsAlong (wayTo path) fs (ensureDirectory fs path).1 := by
  rcases ensureDirectory_state fs path with same | nested
  · rw [same]
    exact .refl _ fs
  · rw [nested]
    exact makeNested_grows fs _

theorem ensureDirectory_adds (fs : FileSystem) (path : String) :
    AddsDirectories fs (ensureDirectory fs path).1 :=
  (ensureDirectory_grows fs path).adds

theorem adds_of_ensured {opened : Except Error Location}
    (ensured : ensureDirectory fs path = (made, opened)) : AddsDirectories fs made := by
  have adds := ensureDirectory_adds fs path
  rwa [ensured] at adds

theorem ensureDirectory_mayAdd {here parent : Location} {steps : List Step} {name : Name}
    (started : fs.start .anywhere (Path.parse (Utf8.bytes path)) = .ok here)
    (taken : (Path.parse (Utf8.bytes path)).steps = steps ++ [.down name])
    (leads : Leads fs .anywhere .find linkLimit here steps true (.present parent .directory)) :
    MayAdd fs (parent ++ [name]) (ensureDirectory fs path).1 := by
  rcases ensureDirectory_state fs path with same | nested
  · exact .inl same
  · rw [nested]
    exact makeNested_mayAdd _ started taken leads

theorem ensureDirectory_of_open
    (opened : fs.openDirectory .anywhere (Utf8.bytes path) = .ok place) :
    ensureDirectory fs path = (fs, .ok place) := by
  simp only [ensureDirectory, opened]

theorem openDirectory_of_ensureDirectory (ensured : ensureDirectory fs path = (made, .ok place)) :
    made.openDirectory .anywhere (Utf8.bytes path) = .ok place := by
  simp only [ensureDirectory] at ensured
  split at ensured
  · rename_i opened
    cases ensured
    exact opened
  · split at ensured
    · cases ensured
    · split at ensured
      · rename_i opened
        cases ensured
        exact opened
      · cases ensured
  · cases ensured

theorem ensureDirectory_error {error : Error} (failed : ensureDirectory fs path = (made, .error error)) :
    ∃ reason, error = .io path reason := by
  simp only [ensureDirectory] at failed
  split at failed
  · cases failed
  · split at failed
    · cases failed
      exact ⟨_, rfl⟩
    · split at failed
      · cases failed
      · cases failed
        exact ⟨_, rfl⟩
  · cases failed
    exact ⟨_, rfl⟩

/-- The name leads, in the directory, to a place for a file: one that lies there or may be created. -/
def LeadsToFile (fs : FileSystem) (directory : Location) (name : String) (place : Location) : Prop :=
  ∃ purpose target, fs.resolve (.beneath directory) purpose (Utf8.bytes name) = .ok target ∧
    EndsAt purpose place target

theorem LeadsToFile.isFree (leads : LeadsToFile fs directory name place) : fs.IsFree place := by
  obtain ⟨purpose, target, found, ends⟩ := leads
  exact isFree_of_resolve found ends

theorem LeadsToFile.resolve {bytes : List UInt8} {written : Nat}
    (leads : LeadsToFile fs directory name place) (keeps : KeepsTree fs after)
    (lies : after.get? place = some (.file bytes written)) :
    after.resolve (.beneath directory) .find (Utf8.bytes name) =
      .ok (.present place (.file bytes written)) := by
  obtain ⟨purpose, target, found, ends⟩ := leads
  exact resolve_reaches keeps found ends lies

theorem LeadsToFile.within (leads : LeadsToFile fs directory name place) :
    isWithin directory place = true := by
  obtain ⟨purpose, target, found, ends⟩ := leads
  obtain ⟨path, here, -, started, walked⟩ := resolve_eq_ok_iff.mp found
  obtain rfl := here_of_start started
  exact walked.within (isWithin_self _) ends

theorem LeadsToFile.not_leaves (leads : LeadsToFile fs directory name place) :
    ¬ LeavesBy fs directory (Path.parse (Utf8.bytes name)) := by
  obtain ⟨purpose, target, found, -⟩ := leads
  obtain ⟨path, here, read, started, walked⟩ := resolve_eq_ok_iff.mp found
  obtain rfl := path_of_readPath read
  obtain rfl := here_of_start started
  rintro (absolute | leaves)
  · simp [start, absolute] at started
  · exact walked.not_leaves leaves

theorem LeadsToFile.named {init : List Step} {last : Name}
    (leads : LeadsToFile fs directory name place) (free : fs.LinkFree directory)
    (steps : (Path.parse (Utf8.bytes name)).steps = init ++ [.down last]) :
    ∃ parent, isWithin directory parent = true ∧ place = parent ++ [last] := by
  obtain ⟨purpose, target, found, ends⟩ := leads
  obtain ⟨path, here, read, started, walked⟩ := resolve_eq_ok_iff.mp found
  obtain rfl := path_of_readPath read
  obtain rfl := here_of_start started
  rw [steps] at walked
  exact walked.named free (isWithin_self _) ends

/-- The outcomes of writing a file in an open directory. -/
inductive Written (fs : FileSystem) (directory : Location) (root name content : String) :
    Except Error (FileSystem × WriteOutcome) → Prop
  | kept (read : fs.readFile (.beneath directory) (Utf8.bytes name) = .ok (Utf8.bytes content)) :
      Written fs directory root name content (.ok (fs, .unchanged))
  | replaced {place : Location} {old : List UInt8} {written : Nat}
      (found : fs.resolve (.beneath directory) .find (Utf8.bytes name) =
        .ok (.present place (.file old written))) (differs : old ≠ Utf8.bytes content) :
      Written fs directory root name content (.ok (fs.setFile place (Utf8.bytes content), .updated))
  | created {place : Location}
      (absent : fs.readFile (.beneath directory) (Utf8.bytes name) = .error .notFound)
      (found : fs.resolve (.beneath directory) .create (Utf8.bytes name) = .ok (.missing place)) :
      Written fs directory root name content (.ok (fs.setFile place (Utf8.bytes content), .updated))
  | uncreated {reason : IoError}
      (absent : fs.readFile (.beneath directory) (Utf8.bytes name) = .error .notFound)
      (none : ∀ place, fs.resolve (.beneath directory) .create (Utf8.bytes name) ≠
        .ok (.missing place)) :
      Written fs directory root name content (.error (.io (Path.join root name) reason))
  | unreadable {reason : IoError}
      (failed : fs.readFile (.beneath directory) (Utf8.bytes name) = .error reason)
      (other : reason ≠ .notFound) :
      Written fs directory root name content (.error (.io (Path.join root name) reason))

theorem written (fs : FileSystem) (directory : Location) (root name content : String) :
    Written fs directory root name content (writeIfChanged fs directory root name content) := by
  simp only [writeIfChanged]
  split
  · rename_i old read
    split
    · rename_i same
      exact .kept (same ▸ read)
    · rename_i differs
      obtain ⟨place, written, found⟩ := readFile_eq_ok_iff.mp read
      rw [writeFile_of_found found]
      exact .replaced found differs
  · rename_i absent
    split
    · rename_i write
      obtain ⟨place, found, rfl⟩ := missing_of_write absent write
      exact .created absent found
    · rename_i failed
      refine .uncreated absent fun place found => ?_
      rw [writeFile_eq_ok_iff.mpr ⟨place, _, found, .create, rfl⟩] at failed
      cases failed
  · rename_i other failed
    exact .unreadable failed other

/-- The writer found the content where the name leads, and did nothing, or put it there. -/
theorem writeIfChanged_ok {outcome : WriteOutcome}
    (done : writeIfChanged fs directory root name content = .ok (after, outcome)) :
    ∃ place, LeadsToFile fs directory name place ∧
      (outcome = .unchanged ∧ after = fs ∧
          (∃ written, fs.get? place = some (.file (Utf8.bytes content) written)) ∨
        outcome = .updated ∧ after = fs.setFile place (Utf8.bytes content) ∧
          ∀ written, fs.get? place ≠ some (.file (Utf8.bytes content) written)) := by
  have outcomes := written fs directory root name content
  rw [done] at outcomes
  cases outcomes with
  | kept read =>
    obtain ⟨place, written, found⟩ := readFile_eq_ok_iff.mp read
    exact ⟨place, ⟨_, _, found, .file⟩, .inl ⟨rfl, rfl, written, lies_of_resolve found⟩⟩
  | @replaced place old _ found differs =>
    refine ⟨place, ⟨_, _, found, .file⟩, .inr ⟨rfl, rfl, fun written lies => differs ?_⟩⟩
    rw [lies_of_resolve found, Option.some.injEq, Entry.file.injEq] at lies
    exact lies.1
  | @created place _ found =>
    refine ⟨place, ⟨_, _, found, .create⟩, .inr ⟨rfl, rfl, fun written lies => ?_⟩⟩
    rw [absent_of_resolve found] at lies
    cases lies

theorem writeIfChanged_of_read
    (read : fs.readFile (.beneath directory) (Utf8.bytes name) = .ok (Utf8.bytes content)) :
    writeIfChanged fs directory root name content = .ok (fs, .unchanged) := by
  simp only [writeIfChanged, read, if_true]

/-- A file that is left unchanged held the content. -/
theorem readFile_of_unchanged
    (left : writeIfChanged fs directory root name content = .ok (after, .unchanged)) :
    fs.readFile (.beneath directory) (Utf8.bytes name) = .ok (Utf8.bytes content) := by
  have outcomes := written fs directory root name content
  rw [left] at outcomes
  cases outcomes
  assumption

theorem writeIfChanged_error {error : Error}
    (failed : writeIfChanged fs directory root name content = .error error) :
    ∃ reason, error = .io (Path.join root name) reason := by
  have outcomes := written fs directory root name content
  rw [failed] at outcomes
  cases outcomes <;> exact ⟨_, rfl⟩

end Registrar.Output
