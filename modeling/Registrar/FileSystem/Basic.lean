/-! File systems as values: what lies at each place, and when each file was last written. -/
namespace Registrar

/-- The bytes of a file name. No slash and no zero byte stands in one, and it may be no UTF-8. -/
abbrev Name := List UInt8

/-- A place, given by the names that lead to it from the root. The root is the empty list. -/
abbrev Location := List Name

namespace Path

def slash : UInt8 := 0x2F

def dot : UInt8 := 0x2E

def longestName : Nat := 255

def isName (name : Name) : Bool :=
  name != [] && name != [dot] && name != [dot, dot] && !name.contains slash && !name.contains 0
    && name.length ≤ longestName

end Path

/-- What can lie at a place. There are no other kinds, such as pipes and devices; a file lies at one
place alone, as there are no hard links; and nothing is kept from anyone by permissions. -/
inductive Entry where
  | file (content : List UInt8) (written : Nat)
  | directory
  /-- A symbolic link with the path it stands for. -/
  | link (target : List UInt8)
  deriving DecidableEq, Repr

inductive IoError where
  | notFound
  | notDirectory
  | isDirectory
  | alreadyExists
  | tooManyLinks
  | nameTooLong
  | leavesDirectory
  | undecodableName
  | zeroByteInPath
  | zeroByteInConfinedPath
  | undecodableContent
  deriving DecidableEq, Repr

def IoError.message : IoError → String
  | notFound => "No such file or directory (os error 2)"
  | notDirectory => "Not a directory (os error 20)"
  | isDirectory => "Is a directory (os error 21)"
  | alreadyExists => "File exists (os error 17)"
  | tooManyLinks => "Too many levels of symbolic links (os error 40)"
  | nameTooLong => "File name too long (os error 36)"
  | leavesDirectory => "a path led outside of the filesystem"
  | undecodableName => "Invalid or incomplete multibyte or wide character (os error 84)"
  | zeroByteInPath => "file name contained an unexpected NUL byte"
  | zeroByteInConfinedPath => "Invalid argument (os error 22)"
  | undecodableContent => "stream did not contain valid UTF-8"

/-- A file system, with the directory that relative paths start from. A directory is listed in
the order of its entries here, which may be any. -/
structure FileSystem where
  entries : List (Location × Entry)
  workingDirectory : Location
  /-- Counts the writes: a file written now is marked with this number. -/
  clock : Nat
  distinct : (entries.map Prod.fst).Nodup
  deriving DecidableEq

namespace FileSystem

def empty : FileSystem where
  entries := []
  workingDirectory := []
  clock := 1
  distinct := .nil

/-- What lies at a place. The root is always a directory. -/
def get? (fs : FileSystem) (place : Location) : Option Entry :=
  if place = [] then some .directory else fs.entries.lookup place

def isWithin (top place : Location) : Bool :=
  top.isPrefixOf place

/-- Puts an entry at a place. Entries put in one by one stand in the order of their places. -/
def set (fs : FileSystem) (place : Location) (entry : Entry) : FileSystem :=
  let others := fs.entries.filter (·.1 != place)
  { fs with
    entries := others.takeWhile (·.1 < place) ++ (place, entry) :: others.dropWhile (·.1 < place)
    distinct := by
      rw [(List.perm_middle.map Prod.fst).nodup_iff, List.takeWhile_append_dropWhile]
      refine List.nodup_cons.mpr ⟨?_, ?_⟩
      · simp [others]
      · exact fs.distinct.sublist (List.filter_sublist.map _) }

def setFile (fs : FileSystem) (place : Location) (content : List UInt8) : FileSystem :=
  { fs.set place (.file content fs.clock) with clock := fs.clock + 1 }

def eraseWithin (fs : FileSystem) (top : Location) : FileSystem :=
  { fs with
    entries := fs.entries.filter (fun entry => !isWithin top entry.1)
    distinct := fs.distinct.sublist (List.filter_sublist.map _) }

def markWithin (fs : FileSystem) (top : Location) (time : Nat) : FileSystem :=
  let mark (entry : Location × Entry) : Location × Entry :=
    (entry.1, match entry.2 with
      | .file content written => .file content (if isWithin top entry.1 then time else written)
      | other => other)
  { fs with
    entries := fs.entries.map mark
    distinct := by
      have same : (Prod.fst ∘ mark) = Prod.fst := rfl
      rw [List.map_map, same]
      exact fs.distinct }

/-- What lies directly in a directory, by name. An entry whose name no directory can hold is not
listed: no path leads to it. -/
def children (fs : FileSystem) (directory : Location) : List (Name × Entry) :=
  fs.entries.filterMap fun (place, entry) =>
    match place.getLast? with
    | some name =>
      if place = directory ++ [name] ∧ Path.isName name then some (name, entry) else none
    | none => none

/-- What lies below a place, with the names that lead there from the place. -/
def descendants (fs : FileSystem) (top : Location) : List (Location × Entry) :=
  fs.entries.filterMap fun (place, entry) =>
    if isWithin top place && place != top then some (place.drop top.length, entry) else none

def writtenSince (fs : FileSystem) (top : Location) (time : Nat) : List Location :=
  (fs.descendants top).filterMap fun (place, entry) =>
    match entry with
    | .file _ written => if time ≤ written then some place else none
    | _ => none

theorem lookup_filter_ne {place other : Location} (different : place ≠ other)
    (entries : List (Location × Entry)) :
    (entries.filter (·.1 != other)).lookup place = entries.lookup place := by
  induction entries with
  | nil => rfl
  | cons head tail ih =>
    obtain ⟨key, entry⟩ := head
    by_cases same : key = other
    · subst same
      have unequal : (place == key) = false := by simpa using different
      simp [ih, List.lookup_cons, unequal]
    · simp [same, List.lookup_cons, ih]

theorem get?_set_same (fs : FileSystem) {place : Location} (entry : Entry) (below : place ≠ []) :
    (fs.set place entry).get? place = some entry := by
  rw [get?, if_neg below, set, List.lookup_append, List.lookup_cons_self,
    List.lookup_eq_none_iff.mpr, Option.none_or]
  intro item earlier
  have other := List.mem_filter.mp ((List.takeWhile_sublist _).subset earlier)
  rw [bne_comm]
  exact other.2

theorem get?_set_other (fs : FileSystem) {place other : Location} (entry : Entry)
    (different : other ≠ place) : (fs.set place entry).get? other = fs.get? other := by
  by_cases root : other = []
  · simp [get?, root]
  · have unequal : (other == place) = false := by simpa using different
    rw [get?, get?, if_neg root, if_neg root, set, List.lookup_append, List.lookup_cons, unequal,
      ← List.lookup_append, List.takeWhile_append_dropWhile, lookup_filter_ne different]

end FileSystem

end Registrar
