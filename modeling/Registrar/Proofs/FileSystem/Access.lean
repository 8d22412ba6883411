import Registrar.Proofs.FileSystem.Change
import Registrar.Proofs.FileSystem.Paths
import Registrar.Proofs.Logged

/-! What the operations by path do, said by the walk that their path takes. -/
namespace Registrar.FileSystem

variable {fs before after : FileSystem} {scope : Scope} {purpose : Purpose} {bytes : List UInt8}

theorem resolve_eq_ok_iff {target : Target} : fs.resolve scope purpose bytes = .ok target ↔
    ∃ path here, readPath scope bytes = .ok path ∧ fs.start scope path = .ok here ∧
      Leads fs scope purpose linkLimit here path.steps path.slashed target := by
  simp only [resolve, resolvePath, bind_eq_ok_iff, walk_eq_ok_iff, exists_and_left]

theorem path_of_readPath {path : Path} (read : readPath scope bytes = .ok path) :
    path = Path.parse bytes := by
  unfold readPath at read
  split at read
  · cases read
  split at read
  · cases read
  split at read
  · cases read
  · exact (Except.ok.inj read).symm

theorem nonempty_of_readPath {path : Path} (read : readPath scope bytes = .ok path) : bytes ≠ [] := by
  rintro rfl
  simp [readPath] at read

theorem here_of_start {path : Path} {top here : Location}
    (started : fs.start (.beneath top) path = .ok here) : here = top := by
  simp only [start] at started
  split at started
  · cases started
  · exact (Except.ok.inj started).symm

theorem start_eq (scope : Scope) (path : Path)
    (home : after.workingDirectory = before.workingDirectory) :
    after.start scope path = before.start scope path := by
  cases scope with
  | beneath top => rfl
  | anywhere => simp only [start, home]

/-- A path leads to the file that lies, after a change, where it led to a place for one. -/
theorem resolve_reaches {place : Location} {target : Target} {content : List UInt8} {written : Nat}
    (keeps : KeepsTree before after) (found : before.resolve scope purpose bytes = .ok target)
    (ends : EndsAt purpose place target)
    (lies : after.get? place = some (.file content written)) :
    after.resolve scope .find bytes = .ok (.present place (.file content written)) := by
  obtain ⟨path, here, read, started, leads⟩ := resolve_eq_ok_iff.mp found
  refine resolve_eq_ok_iff.mpr ⟨path, here, read, ?_, (leads.reaches keeps ends lies).find⟩
  rw [start_eq scope path keeps.home, started]

theorem isFree_of_resolve {place : Location} {target : Target}
    (found : fs.resolve scope purpose bytes = .ok target) (ends : EndsAt purpose place target) :
    fs.IsFree place := by
  obtain ⟨path, here, -, -, leads⟩ := resolve_eq_ok_iff.mp found
  exact leads.isFree ends

theorem openDirectory_eq_ok_iff {place : Location} : fs.openDirectory scope bytes = .ok place ↔
    fs.resolve scope .find bytes = .ok (.present place .directory) := by
  simp only [openDirectory]
  cases fs.resolve scope .find bytes with
  | error => simp [bind, Except.bind]
  | ok target =>
    rcases target with ⟨_, _ | _ | _⟩ | _ <;> simp [bind, Except.bind]

/-- A directory that a path led to can be opened by it after the change. -/
theorem KeepsTree.openDirectory {place : Location} (keeps : KeepsTree before after)
    (opened : before.openDirectory scope bytes = .ok place) :
    after.openDirectory scope bytes = .ok place := by
  obtain ⟨path, here, read, started, leads⟩ :=
    resolve_eq_ok_iff.mp (openDirectory_eq_ok_iff.mp opened)
  refine openDirectory_eq_ok_iff.mpr (resolve_eq_ok_iff.mpr ⟨path, here, read, ?_, ?_⟩)
  · rw [start_eq scope path keeps.home, started]
  · exact leads.enters keeps

theorem lies_of_resolve {place : Location} {content : List UInt8} {written : Nat}
    (found : fs.resolve scope purpose bytes = .ok (.present place (.file content written))) :
    fs.get? place = some (.file content written) := by
  obtain ⟨path, here, -, -, leads⟩ := resolve_eq_ok_iff.mp found
  exact leads.lies

theorem absent_of_resolve {place : Location}
    (found : fs.resolve scope purpose bytes = .ok (.missing place)) : fs.get? place = none := by
  obtain ⟨path, here, -, -, leads⟩ := resolve_eq_ok_iff.mp found
  exact leads.absent

theorem status_eq_ok_iff {entry : Entry} : fs.status scope bytes = .ok entry ↔
    ∃ place, fs.resolve scope .find bytes = .ok (.present place entry) := by
  simp only [status]
  cases fs.resolve scope .find bytes with
  | error => simp [bind, Except.bind]
  | ok target => cases target <;> simp [bind, Except.bind]

theorem readFile_eq_ok_iff {content : List UInt8} : fs.readFile scope bytes = .ok content ↔
    ∃ place written, fs.resolve scope .find bytes = .ok (.present place (.file content written)) := by
  rw [exists_comm]
  simp only [← status_eq_ok_iff, readFile]
  cases fs.status scope bytes with
  | error => simp [bind, Except.bind]
  | ok entry => cases entry <;> simp [bind, Except.bind]

theorem readFile_of_name {top : Location} {name : Name} {content : List UInt8} {written : Nat}
    (named : Path.isName name = true)
    (lies : fs.get? (top ++ [name]) = some (.file content written)) :
    fs.readFile (.beneath top) name = .ok content := by
  obtain ⟨ordinary, plain, noZero, short⟩ := Path.isName_iff.mp named
  have parsed := Path.parse_of_ordinary ordinary plain
  have admissible : ¬ name.length > Path.longest := by
    rw [Path.longest]
    rw [Path.longestName] at short
    omega
  refine readFile_eq_ok_iff.mpr ⟨top ++ [name], written, resolve_eq_ok_iff.mpr
    ⟨Path.parse name, top, ?_, ?_, ?_⟩⟩
  · rw [readPath, if_neg noZero, if_neg ordinary.1, if_neg admissible]
  · rw [parsed]
    rfl
  · rw [parsed]
    exact .file ⟨by simp, short⟩ lies

theorem writeFile_eq_ok_iff {content : List UInt8} :
    fs.writeFile scope bytes content = .ok after ↔
      ∃ place target, fs.resolve scope .create bytes = .ok target ∧
        EndsAt .create place target ∧ after = fs.setFile place content := by
  simp only [writeFile]
  cases fs.resolve scope .create bytes with
  | error => simp [bind, Except.bind]
  | ok target =>
    constructor
    · intro done
      rcases target with ⟨place, _ | _ | _⟩ | place
      · cases done
        exact ⟨place, _, rfl, .file, rfl⟩
      · cases done
      · cases done
      · cases done
        exact ⟨place, _, rfl, .create, rfl⟩
    · rintro ⟨place, _, ⟨⟩, ends, rfl⟩
      cases ends <;> rfl

theorem resolve_create {place : Location} {content : List UInt8} {written : Nat}
    (found : fs.resolve scope .find bytes = .ok (.present place (.file content written))) :
    fs.resolve scope .create bytes = .ok (.present place (.file content written)) := by
  obtain ⟨path, here, read, started, leads⟩ := resolve_eq_ok_iff.mp found
  exact resolve_eq_ok_iff.mpr ⟨path, here, read, started, leads.create⟩

theorem resolve_find {target : Target} (found : fs.resolve scope purpose bytes = .ok target) :
    fs.resolve scope .find bytes = .ok target := by
  obtain ⟨path, here, read, started, leads⟩ := resolve_eq_ok_iff.mp found
  exact resolve_eq_ok_iff.mpr ⟨path, here, read, started, leads.find⟩

theorem writeFile_of_found {place : Location} {old content : List UInt8} {written : Nat}
    (found : fs.resolve scope .find bytes = .ok (.present place (.file old written))) :
    fs.writeFile scope bytes content = .ok (fs.setFile place content) :=
  writeFile_eq_ok_iff.mpr ⟨place, _, resolve_create found, .file, rfl⟩

/-- What is made where a name leads to nothing was missing there. -/
theorem missing_of_write {after : FileSystem} {content : List UInt8}
    (absent : fs.readFile scope bytes = .error .notFound)
    (write : fs.writeFile scope bytes content = .ok after) :
    ∃ place, fs.resolve scope .create bytes = .ok (.missing place) ∧
      after = fs.setFile place content := by
  obtain ⟨place, target, found, ends, rfl⟩ := writeFile_eq_ok_iff.mp write
  cases ends with
  | create => exact ⟨place, found, rfl⟩
  | file =>
    rw [readFile_eq_ok_iff.mpr ⟨place, _, resolve_find found⟩] at absent
    cases absent

theorem newPlace_absent {path : Path} {place : Location} (chosen : fs.newPlace path = .ok place) :
    fs.get? place = none := by
  obtain ⟨there, -, chosen⟩ := bind_eq_ok_iff.mp chosen
  split at chosen
  · cases chosen
  · rename_i empty
    cases chosen
    simpa using empty

theorem makeDirectory_adds {path : Path} (made : fs.makeDirectory path = .ok after) :
    AddsDirectories fs after := by
  obtain ⟨place, chosen, made⟩ := bind_eq_ok_iff.mp made
  cases made
  exact addsDirectories_set (newPlace_absent chosen)

/-- What holds of each directory that is made, in a row, holds of making them all, also when that
fails. -/
theorem makeNested_steps {related : FileSystem → FileSystem → Prop} {parts : List Path}
    (refl : ∀ fs, related fs fs)
    (trans : ∀ {first second third}, related first second → related second third →
      related first third)
    (step : ∀ part ∈ parts, ∀ before after, before.makeDirectory part = .ok after →
      related before after)
    (fs : FileSystem) : related fs (fs.makeNested parts).1 := by
  induction parts with
  | nil => exact refl fs
  | cons path above ih =>
    obtain ⟨first, step⟩ := List.forall_mem_cons.mp step
    have ih := ih step
    rw [makeNested]
    split
    · rename_i made
      exact first _ _ made
    · generalize nested : fs.makeNested above = below at ih ⊢
      obtain ⟨below, _ | _⟩ := below
      · exact ih
      · dsimp only
        split
        · rename_i made
          exact trans ih (first _ _ made)
        · exact ih
    · exact refl fs

theorem namedPlace_of_leads {path : Path} {here parent : Location} {steps : List Step} {name : Name}
    (started : fs.start .anywhere path = .ok here) (taken : path.steps = steps ++ [.down name])
    (leads : Leads fs .anywhere .find linkLimit here steps true (.present parent .directory)) :
    fs.namedPlace path =
      if name.length > Path.longestName then .error .nameTooLong else .ok (parent ++ [name]) := by
  simp only [namedPlace, started, taken, List.dropLast_concat, List.getLast?_concat, leads.walk,
    bind, Except.bind]

/-- Nothing happens, or a directory appears at the place, where nothing lay. -/
def MayAdd (fs : FileSystem) (place : Location) (made : FileSystem) : Prop :=
  made = fs ∨ fs.get? place = none ∧ made = fs.set place .directory

theorem MayAdd.entry {place other : Location} (adds : MayAdd before place after) :
    after.get? other = before.get? other ∨
      other = place ∧ before.get? other = none ∧ after.get? other = some .directory := by
  rcases adds with rfl | ⟨absent, rfl⟩
  · exact .inl rfl
  · by_cases same : other = place
    · subst same
      exact .inr ⟨rfl, absent, get?_set_same before _ (place_ne_nil (.inl absent))⟩
    · exact .inl (get?_set_other before _ same)

theorem makeNested_mayAdd {path : Path} {here parent : Location} {steps : List Step} {name : Name}
    (above : List Path) (started : fs.start .anywhere path = .ok here)
    (taken : path.steps = steps ++ [.down name])
    (leads : Leads fs .anywhere .find linkLimit here steps true (.present parent .directory)) :
    MayAdd fs (parent ++ [name]) (fs.makeNested (path :: above)).1 := by
  rw [makeNested, makeDirectory, newPlace, namedPlace_of_leads started taken leads]
  by_cases long : name.length > Path.longestName
  · rw [if_pos long]
    exact .inl rfl
  · rw [if_neg long]
    by_cases present : (fs.get? (parent ++ [name])).isSome = true
    · simp only [bind, Except.bind, present, if_true]
      exact .inl rfl
    · simp only [bind, Except.bind, present]
      exact .inr ⟨by simpa using present, rfl⟩

end Registrar.FileSystem
