import Registrar.Proofs.FileSystem.Nested
import Registrar.Proofs.Output

/-! Opening the output directory. It is made first where it is missing, with those above it; however
that ends, nothing is lost or changed, and what is opened once is opened again without a change. -/
namespace Registrar.Output
open FileSystem

variable {fs made : FileSystem} {path : String} {parent place : Location} {names : List Name}

/-- What opening a directory leaves and gives. -/
structure Ensures (fs : FileSystem) (path : String) (made : FileSystem)
    (opened : Except Error Location) : Prop where
  /-- However it ends, all that is added are directories where nothing lay, each of them opened by
  the path or by one above it; all else is as it was. -/
  grows : GrowsAlong (wayTo path) fs made
  files : SameFiles fs made
  links : SameLinks fs made
  /-- The directory is the one that the path leads to, and is opened again without a change. -/
  opens : ∀ place, opened = .ok place →
    made.openDirectory .anywhere (Utf8.bytes path) = .ok place ∧
      ensureDirectory made path = (made, .ok place)
  /-- A directory that is there is opened as it is. -/
  present : ∀ place, fs.openDirectory .anywhere (Utf8.bytes path) = .ok place →
    made = fs ∧ opened = .ok place
  /-- Nothing is made where the way is barred and not just missing. -/
  barred : ∀ reason, fs.openDirectory .anywhere (Utf8.bytes path) = .error reason →
    reason ≠ .notFound → made = fs ∧ opened = .error (.io path reason)
  /-- Where names are missing below a directory, one directory is made for each, and opened. -/
  missing : ∀ parent names,
    readPath .anywhere (Utf8.bytes path) = .ok (Path.parse (Utf8.bytes path)) →
    Descends fs (Path.parse (Utf8.bytes path)) parent names → names ≠ [] → Lacks fs parent names →
    opened = .ok (parent ++ names) ∧ AddsNames parent names fs made
  refused : ∀ error, opened = .error error → ∃ reason, error = .io path reason

theorem openDirectory_of_lacks
    (read : readPath .anywhere (Utf8.bytes path) = .ok (Path.parse (Utf8.bytes path)))
    (descends : Descends fs (Path.parse (Utf8.bytes path)) parent names) (some : names ≠ [])
    (lacks : Lacks fs parent names) :
    fs.openDirectory .anywhere (Utf8.bytes path) = .error .notFound := by
  obtain ⟨here, steps, started, taken, leads⟩ := descends
  rcases lacks.walk some leads (Path.parse (Utf8.bytes path)).slashed with walked | ⟨place, walked⟩ <;>
    simp only [openDirectory, resolve, resolvePath, read, started, taken, walked, bind, Except.bind]

theorem ensureDirectory_of_lacks
    (read : readPath .anywhere (Utf8.bytes path) = .ok (Path.parse (Utf8.bytes path)))
    (descends : Descends fs (Path.parse (Utf8.bytes path)) parent names) (some : names ≠ [])
    (lacks : Lacks fs parent names) :
    ∃ made, ensureDirectory fs path = (made, .ok (parent ++ names)) ∧
      AddsNames parent names fs made := by
  have absent := openDirectory_of_lacks read descends some lacks
  obtain ⟨made, done, adds⟩ := makeDirectories_of_lacks descends some lacks
  obtain ⟨here, steps, started, taken, leads⟩ := descends
  have opened : made.openDirectory .anywhere (Utf8.bytes path) = .ok (parent ++ names) := by
    refine openDirectory_eq_ok_iff.mpr (resolve_eq_ok_iff.mpr ⟨_, here, read, ?_, ?_⟩)
    · rw [start_eq .anywhere _ adds.home, started]
    · rw [taken]
      exact adds.leads lacks leads
  refine ⟨made, ?_, adds⟩
  simp only [ensureDirectory, absent, done, opened]

theorem ensureDirectory_of_barred {reason : IoError}
    (barred : fs.openDirectory .anywhere (Utf8.bytes path) = .error reason)
    (other : reason ≠ .notFound) : ensureDirectory fs path = (fs, .error (.io path reason)) := by
  simp only [ensureDirectory, barred]

/-- **Opening the output directory.** All that it adds, also when it fails, are directories that were
missing on the way of the path. What it opens is the directory that the path leads to then, and
opening it once more changes nothing. It changes nothing either where the directory is there, or where
something else than a missing name is in the way. -/
theorem ensureDirectory_ensures (fs : FileSystem) (path : String) :
    Ensures fs path (ensureDirectory fs path).1 (ensureDirectory fs path).2 where
  grows := ensureDirectory_grows fs path
  files := (ensureDirectory_adds fs path).sameFiles
  links := (ensureDirectory_adds fs path).sameLinks
  opens place opened := by
    have again := openDirectory_of_ensureDirectory (Prod.ext rfl opened)
    exact ⟨again, ensureDirectory_of_open again⟩
  present place opened := by
    rw [ensureDirectory_of_open opened]
    exact ⟨rfl, rfl⟩
  barred reason barred other := by
    rw [ensureDirectory_of_barred barred other]
    exact ⟨rfl, rfl⟩
  missing parent names read descends some lacks := by
    obtain ⟨made, ensured, adds⟩ := ensureDirectory_of_lacks read descends some lacks
    rw [ensured]
    exact ⟨rfl, adds⟩
  refused error failed := ensureDirectory_error (Prod.ext rfl failed)

/-- A directory, and a link to it. -/
def linkedDirectory : FileSystem :=
  (FileSystem.empty.set [Utf8.bytes "d"] .directory).set [Utf8.bytes "l"] (.link (Utf8.bytes "d"))

theorem linkedDirectory_lacks :
    Descends linkedDirectory (Path.parse (Utf8.bytes "l/./a/b/")) [Utf8.bytes "d"]
        [Utf8.bytes "a", Utf8.bytes "b"] ∧
      Lacks linkedDirectory [Utf8.bytes "d"] [Utf8.bytes "a", Utf8.bytes "b"] := by
  refine ⟨⟨[], [.down (Utf8.bytes "l"), .stay], rfl, by decide, leads_of_walk (by decide)⟩, ?_,
    by decide⟩
  intro more some among
  rcases more with _ | ⟨first, _ | ⟨second, rest⟩⟩
  · exact absurd rfl some
  · obtain ⟨rfl, -⟩ := List.cons_prefix_cons.mp among
    decide
  · obtain ⟨rfl, onward⟩ := List.cons_prefix_cons.mp among
    obtain ⟨rfl, last⟩ := List.cons_prefix_cons.mp onward
    obtain rfl := List.prefix_nil.mp last
    decide

/-- Two directories are made through the link, which stays, and opened again as they are. -/
theorem linkedDirectory_ensured :
    let made := (ensureDirectory linkedDirectory "l/./a/b/").1
    let place := [Utf8.bytes "d", Utf8.bytes "a", Utf8.bytes "b"]
    linkedDirectory.openDirectory .anywhere (Utf8.bytes "l/./a/b/") = .error .notFound ∧
      (ensureDirectory linkedDirectory "l/./a/b/").2 = .ok place ∧
      ensureDirectory made "l/./a/b/" = (made, .ok place) ∧
      made.get? [Utf8.bytes "l"] = some (.link (Utf8.bytes "d")) := by
  have read : readPath .anywhere (Utf8.bytes "l/./a/b/") =
      .ok (Path.parse (Utf8.bytes "l/./a/b/")) := by cbv
  have link : linkedDirectory.get? [Utf8.bytes "l"] = some (.link (Utf8.bytes "d")) := by decide
  obtain ⟨descends, lacks⟩ := linkedDirectory_lacks
  have ensures := ensureDirectory_ensures linkedDirectory "l/./a/b/"
  obtain ⟨opened, -⟩ := ensures.missing _ _ read descends (by simp) lacks
  exact ⟨openDirectory_of_lacks read descends (by simp) lacks, opened, (ensures.opens _ opened).2,
    (ensures.links _ _).mpr link⟩

end Registrar.Output
