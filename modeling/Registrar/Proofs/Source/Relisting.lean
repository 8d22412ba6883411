import Registrar.Proofs.Source.Listing

/-! The order of a listing. The sources that are located, and what is read in them, are the same in
whatever order the file system holds its entries. -/
namespace Registrar.FileSystem

/-- The same entries in any order, and the same working directory. -/
structure Relisted (before after : FileSystem) : Prop where
  entries : after.entries.Perm before.entries
  home : after.workingDirectory = before.workingDirectory

/-- The entries from the last to the first. -/
def turned (fs : FileSystem) : FileSystem :=
  { fs with
    entries := fs.entries.reverse
    distinct := by
      rw [List.map_reverse, List.nodup_reverse]
      exact fs.distinct }

theorem Relisted.refl (fs : FileSystem) : Relisted fs fs :=
  ⟨.refl _, rfl⟩

theorem Relisted.symm {before after : FileSystem} (relisted : Relisted before after) :
    Relisted after before :=
  ⟨relisted.entries.symm, relisted.home.symm⟩

theorem Relisted.turned (fs : FileSystem) : Relisted fs fs.turned :=
  ⟨List.reverse_perm _, rfl⟩

variable {before after : FileSystem}

theorem Relisted.get?_eq (relisted : Relisted before after) : after.get? = before.get? := by
  funext place
  by_cases root : place = []
  · rw [get?, get?, if_pos root, if_pos root]
  · apply Option.ext
    intro entry
    rw [get?_eq_some_iff root, get?_eq_some_iff root, relisted.entries.mem_iff]

theorem traverse_eq {scope : Scope} {purpose : Purpose}
    {follow : Location → Path → List Step → Bool → Except IoError Target}
    (same : after.get? = before.get?) (here : Location) (steps : List Step) (slashed : Bool) :
    after.traverse scope purpose follow here steps slashed =
      before.traverse scope purpose follow here steps slashed := by
  induction steps generalizing here with
  | nil => rfl
  | cons step steps ih => cases step <;> simp only [traverse, same, ih]

theorem walk_eq {scope : Scope} {purpose : Purpose} (same : after.get? = before.get?)
    (links : Nat) : after.walk scope purpose links = before.walk scope purpose links := by
  induction links with
  | zero =>
    funext here steps slashed
    exact traverse_eq same here steps slashed
  | succ links ih =>
    funext here steps slashed
    simp only [walk, ih]
    exact traverse_eq same here steps slashed

namespace Relisted

variable (relisted : Relisted before after)
include relisted

theorem resolve (scope : Scope) (purpose : Purpose) (bytes : List UInt8) :
    after.resolve scope purpose bytes = before.resolve scope purpose bytes := by
  have started (path : Path) : after.start scope path = before.start scope path :=
    start_eq scope path relisted.home
  simp only [FileSystem.resolve, resolvePath, started, walk_eq relisted.get?_eq]

theorem openDirectory (path : String) :
    Source.openDirectory after path = Source.openDirectory before path := by
  simp only [Source.openDirectory, FileSystem.openDirectory, relisted.resolve]

theorem judge (root : String) (vocabulary : Vocabulary) :
    Source.judge after root vocabulary = Source.judge before root vocabulary := by
  funext child
  simp only [Source.judge, status, relisted.resolve]

/-- Both list the same entries, so that by their names they come to the same sources. -/
theorem locate {home : Location} {root : String} {vocabulary : Vocabulary}
    {sources : List SourceFile} :
    (Source.locate after home root vocabulary).result = .ok sources ↔
      (Source.locate before home root vocabulary).result = .ok sources := by
  have listed : (after.children home).Perm (before.children home) :=
    relisted.entries.filterMap _
  have same : Source.gather after root vocabulary = Source.gather before root vocabulary := by
    funext entries
    simp only [Source.gather, relisted.judge]
  rw [Source.locate, same, Source.gather_eq_ok_iff_located listed, Source.locate_eq_ok_iff]

theorem read (home : Location) : Source.read after home = Source.read before home := by
  funext source
  simp only [Source.read, Source.readBytes, readFile, status, relisted.resolve]

end Relisted

end Registrar.FileSystem
