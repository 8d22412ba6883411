import Mathlib.Data.List.Sort
import Registrar.Proofs.FileSystem.Access
import Registrar.Source

/-! What a directory lists, and which of it the sources are. They are judged one by one as they are
listed and put in order afterwards, so that they are fixed by what lies in the directory: the order of
the listing is not seen. -/
namespace Registrar

theorem Path.bytesLe_iff {left right : List UInt8} : bytesLe left right = true ↔ left ≤ right := by
  induction left generalizing right with
  | nil => simp [bytesLe]
  | cons byte left ih =>
    cases right with
    | nil => simp [bytesLe]
    | cons other right => simp [bytesLe, List.cons_le_cons_iff, ih]

namespace FileSystem

variable {fs : FileSystem} {directory place : Location} {name : Name} {entry : Entry}

theorem get?_eq_some_iff (below : place ≠ []) :
    fs.get? place = some entry ↔ (place, entry) ∈ fs.entries := by
  rw [get?, if_neg below]
  constructor
  · intro found
    obtain ⟨before, after, parts, -⟩ := List.lookup_eq_some_iff.mp found
    simp [parts]
  · intro member
    obtain ⟨before, after, parts⟩ := List.append_of_mem member
    refine List.lookup_eq_some_iff.mpr ⟨before, after, parts, ?_⟩
    intro other earlier
    have distinct := fs.distinct
    rw [parts, List.map_append, List.map_cons, List.nodup_append] at distinct
    rw [bne_iff_ne]
    exact (distinct.2.2 _ (List.mem_map_of_mem earlier) _ List.mem_cons_self).symm

theorem linkFree_of_all (top : Location)
    (none : fs.entries.all (fun item => match item.2 with
      | .link _ => false
      | _ => true) = true) : fs.LinkFree top := by
  intro place target _ lies
  have below : place ≠ [] := by
    rintro rfl
    simp [get?] at lies
  exact absurd (List.all_eq_true.mp none _ ((get?_eq_some_iff below).mp lies)) (by simp)

theorem childOf_eq_some_iff (item : Location × Entry) (child : Name × Entry) :
    (match item.1.getLast? with
      | some name =>
        if item.1 = directory ++ [name] ∧ Path.isName name = true then some (name, item.2) else none
      | none => none) = some child ↔
      Path.isName child.1 = true ∧ item = (directory ++ [child.1], child.2) := by
  obtain ⟨place, entry⟩ := item
  obtain ⟨name, found⟩ := child
  constructor
  · intro listed
    dsimp only at listed
    split at listed
    · split at listed
      · rename_i parts
        cases listed
        exact ⟨parts.2, by rw [← parts.1]⟩
      · cases listed
    · cases listed
  · rintro ⟨named, same⟩
    cases same
    simp [named]

theorem mem_children : (name, entry) ∈ fs.children directory ↔
    Path.isName name = true ∧ fs.get? (directory ++ [name]) = some entry := by
  rw [get?_eq_some_iff (by simp), children, List.mem_filterMap]
  constructor
  · rintro ⟨item, member, listed⟩
    obtain ⟨named, rfl⟩ := (childOf_eq_some_iff _ _).mp listed
    exact ⟨named, member⟩
  · rintro ⟨named, member⟩
    exact ⟨_, member, (childOf_eq_some_iff _ (name, entry)).mpr ⟨named, rfl⟩⟩

theorem children_distinct (fs : FileSystem) (directory : Location) :
    (fs.children directory).Pairwise fun left right => left.1 ≠ right.1 := by
  have distinct := fs.distinct
  rw [List.nodup_iff_pairwise_ne, List.pairwise_map] at distinct
  apply distinct.filterMap
  intro item other different child listed sibling found same
  obtain ⟨-, rfl⟩ := (childOf_eq_some_iff _ _).mp listed
  obtain ⟨-, rfl⟩ := (childOf_eq_some_iff _ _).mp found
  exact different (by rw [same])

end FileSystem

namespace Source

variable {fs : FileSystem} {home : Location} {root : String} {vocabulary : Vocabulary}
  {entries : List (Name × Entry)} {sources : List SourceFile} {source : SourceFile} {name : Name}
  {entry : Entry}

/-- Items with different keys are sorted strictly by them. -/
theorem sorted_mergeSort {α : Type} {key : α → List UInt8} {items : List α}
    (distinct : items.Pairwise fun left right => key left ≠ key right) :
    (items.mergeSort fun left right => Path.bytesLe (key left) (key right)).Pairwise
      fun left right => key left < key right := by
  have ordered : (items.mergeSort fun left right => Path.bytesLe (key left) (key right)).Pairwise
      fun left right => Path.bytesLe (key left) (key right) = true := by
    apply List.pairwise_mergeSort
    · intro first second third below above
      rw [Path.bytesLe_iff] at below above ⊢
      exact List.le_trans below above
    · intro first second
      rw [Bool.or_eq_true, Path.bytesLe_iff, Path.bytesLe_iff]
      exact List.le_total _ _
  have different := ((List.mergeSort_perm items fun left right =>
    Path.bytesLe (key left) (key right)).pairwise_iff Ne.symm).mpr distinct
  apply (ordered.and different).imp
  intro left right both
  have below := Path.bytesLe_iff.mp both.1
  exact (List.le_iff_lt_or_eq.mp below).resolve_right both.2

/-- An entry that is taken for a source: a file, or a link to one, of a source's name. -/
inductive Candidate (fs : FileSystem) (root : String) (vocabulary : Vocabulary) :
    Name → Entry → SourceFile → Prop
  | file {name : String} {content : List UInt8} {written : Nat}
      (suits : isSourceName vocabulary name = true) :
      Candidate fs root vocabulary (pathBytes name) (.file content written)
        ⟨name, Path.join root name, false⟩
  | link {name : String} {target content : List UInt8} {written : Nat}
      (suits : isSourceName vocabulary name = true)
      (leads : fs.status .anywhere (pathBytes (Path.join root name)) = .ok (.file content written)) :
      Candidate fs root vocabulary (pathBytes name) (.link target) ⟨name, Path.join root name, true⟩

theorem judge_eq_some_iff : (judge fs root vocabulary (name, entry)).result = .ok (some source) ↔
    Candidate fs root vocabulary name entry source := by
  constructor
  · intro judged
    simp only [judge] at judged
    split at judged
    · cases judged
    · rename_i text decoded
      obtain rfl := Utf8.bytes_of_string? decoded
      split at judged
      · rename_i suits
        split at judged
        · cases judged
          exact .file suits
        · cases judged
        · split at judged
          · rename_i leads
            cases judged
            exact .link suits leads
          · cases judged
          · cases judged
          · cases judged
      · cases judged
  · rintro (suits | ⟨suits, leads⟩)
    · simp only [judge, pathBytes, Utf8.string?_bytes, suits, if_true]
      rfl
    · simp only [pathBytes] at leads
      simp only [judge, pathBytes, Utf8.string?_bytes, suits, if_true, leads]
      rfl

theorem Candidate.name_eq (candidate : Candidate fs root vocabulary name entry source) :
    pathBytes source.name = name := by
  cases candidate <;> rfl

/-- The sources in an open directory: in the strict order of their names all its candidates, if
each of its entries can be judged. -/
structure Located (fs : FileSystem) (home : Location) (root : String) (vocabulary : Vocabulary)
    (sources : List SourceFile) : Prop where
  judged : ∀ name entry, Path.isName name = true → fs.get? (home ++ [name]) = some entry →
    ∃ verdict, (judge fs root vocabulary (name, entry)).result = .ok verdict
  sorted : sources.Pairwise fun left right => pathBytes left.name < pathBytes right.name
  mem_iff : ∀ source, source ∈ sources ↔ ∃ name entry, Path.isName name = true ∧
    fs.get? (home ++ [name]) = some entry ∧ Candidate fs root vocabulary name entry source

theorem filterMap_judged {children : List (Name × Entry)} {verdicts : List (Option SourceFile)}
    (judged : List.Forall₂ (fun child verdict =>
      (judge fs root vocabulary child).result = .ok verdict) children verdicts) :
    source ∈ verdicts.filterMap id ↔
      ∃ child ∈ children, Candidate fs root vocabulary child.1 child.2 source := by
  simp only [List.mem_filterMap, id, exists_eq_right]
  induction judged with
  | nil => simp
  | @cons child verdict _ _ first _ ih =>
    rw [List.mem_cons, ih, List.exists_mem_cons_iff, ← judge_eq_some_iff, first, Except.ok.injEq,
      eq_comm]

/-- What holds between the names of any two entries holds between those of the sources among them. -/
theorem pairwise_judged {related : Name → Name → Prop} {children : List (Name × Entry)}
    {verdicts : List (Option SourceFile)}
    (judged : List.Forall₂ (fun child verdict =>
      (judge fs root vocabulary child).result = .ok verdict) children verdicts)
    (pairs : children.Pairwise fun left right => related left.1 right.1) :
    (verdicts.filterMap id).Pairwise fun left right =>
      related (pathBytes left.name) (pathBytes right.name) := by
  induction judged with
  | nil => exact .nil
  | @cons child verdict children verdicts first rest ih =>
    obtain ⟨head, pairs⟩ := List.pairwise_cons.mp pairs
    cases verdict with
    | none => exact ih pairs
    | some source =>
      refine List.pairwise_cons.mpr ⟨?_, ih pairs⟩
      intro other member
      obtain ⟨sibling, listed, candidate⟩ := (filterMap_judged rest).mp member
      rw [(judge_eq_some_iff.mp first).name_eq, candidate.name_eq]
      exact head sibling listed

theorem Located.isName (located : Located fs home root vocabulary sources)
    (member : source ∈ sources) : Path.isName (pathBytes source.name) = true := by
  obtain ⟨name, entry, named, -, candidate⟩ := (located.mem_iff source).mp member
  exact candidate.name_eq ▸ named

theorem Located.names_nodup (located : Located fs home root vocabulary sources) :
    (sources.map SourceFile.name).Nodup := by
  rw [List.nodup_iff_pairwise_ne, List.pairwise_map]
  apply located.sorted.imp
  intro left right before same
  rw [same] at before
  exact List.lt_irrefl _ before

theorem Located.unique {others : List SourceFile} (left : Located fs home root vocabulary sources)
    (right : Located fs home root vocabulary others) : sources = others := by
  have irrefl : Std.Irrefl fun left right : SourceFile =>
      pathBytes left.name < pathBytes right.name := ⟨fun _ => List.lt_irrefl _⟩
  have antisymm : Std.Antisymm fun left right : SourceFile =>
      pathBytes left.name < pathBytes right.name :=
    ⟨fun _ _ below above => absurd above (List.lt_asymm below)⟩
  apply left.sorted.eq_of_mem_iff right.sorted
  intro source
  rw [left.mem_iff, right.mem_iff]

theorem gather_eq_ok_iff : (gather fs root vocabulary entries).result = .ok sources ↔
    ∃ verdicts, List.Forall₂ (fun child verdict =>
      (judge fs root vocabulary child).result = .ok verdict) entries verdicts ∧
        ((verdicts.filterMap id).mergeSort fun left right =>
          Path.bytesLe (pathBytes left.name) (pathBytes right.name)) = sources := by
  simp only [gather, Logged.bind_result, Logged.pure_result, bind_eq_ok_iff, Except.ok.injEq,
    Logged.forEach_ok_iff]

/-- Gathering fails over an entry that cannot be judged. -/
theorem gather_error {error : Error}
    (failed : (gather fs root vocabulary entries).result = .error error) :
    ∃ child ∈ entries, (judge fs root vocabulary child).result = .error error := by
  simp only [gather, Logged.bind_result, Logged.pure_result, bind_eq_error_iff, reduceCtorEq,
    and_false, exists_false, or_false, Logged.forEach_error_iff] at failed
  obtain ⟨before, child, after, rfl, -, failed⟩ := failed
  exact ⟨child, by simp, failed⟩

theorem located_of_gather (listed : entries.Perm (fs.children home))
    (gathered : (gather fs root vocabulary entries).result = .ok sources) :
    Located fs home root vocabulary sources := by
  obtain ⟨verdicts, judged, rfl⟩ := gather_eq_ok_iff.mp gathered
  have distinct : entries.Pairwise fun left right => left.1 ≠ right.1 :=
    (listed.pairwise_iff Ne.symm).mpr (FileSystem.children_distinct fs home)
  refine ⟨?_, sorted_mergeSort (pairwise_judged judged distinct), ?_⟩
  · intro name entry named lies
    have member := listed.mem_iff.mpr (FileSystem.mem_children.mpr ⟨named, lies⟩)
    obtain ⟨verdict, -, done⟩ := exists_of_forall₂ judged member
    exact ⟨verdict, done⟩
  · intro source
    rw [List.mem_mergeSort, filterMap_judged judged]
    constructor
    · rintro ⟨⟨name, entry⟩, member, candidate⟩
      obtain ⟨named, lies⟩ := FileSystem.mem_children.mp (listed.mem_iff.mp member)
      exact ⟨name, entry, named, lies, candidate⟩
    · rintro ⟨name, entry, named, lies, candidate⟩
      have member := listed.mem_iff.mpr (FileSystem.mem_children.mpr ⟨named, lies⟩)
      exact ⟨(name, entry), member, candidate⟩

/-- In whatever order the entries are listed, gathering gives the sources in the directory, and gives
none only where an entry of the directory cannot be judged. -/
theorem gather_eq_ok_iff_located (listed : entries.Perm (fs.children home)) :
    (gather fs root vocabulary entries).result = .ok sources ↔
      Located fs home root vocabulary sources := by
  constructor
  · exact located_of_gather listed
  intro located
  cases gathered : (gather fs root vocabulary entries).result with
  | ok others => rw [(located_of_gather listed gathered).unique located]
  | error error =>
    obtain ⟨⟨name, entry⟩, member, failed⟩ := gather_error gathered
    obtain ⟨named, lies⟩ := FileSystem.mem_children.mp (listed.mem_iff.mp member)
    obtain ⟨verdict, judged⟩ := located.judged name entry named lies
    rw [failed] at judged
    cases judged

theorem locate_eq_ok_iff : (locate fs home root vocabulary).result = .ok sources ↔
    Located fs home root vocabulary sources :=
  gather_eq_ok_iff_located (.refl _)

theorem openDirectory_eq_ok_iff {path : String} {place : Location} :
    Source.openDirectory fs path = .ok place ↔
      fs.openDirectory .anywhere (pathBytes path) = .ok place := by
  rw [Source.openDirectory]
  split <;> simp_all

/-- Without links before and after, a directory keeps what it holds and gains at most directories
with well-formed names. -/
structure KeepsSources (fs after : FileSystem) (home : Location) : Prop where
  free : fs.LinkFree []
  freeAfter : after.LinkFree []
  entry : ∀ name, after.get? (home ++ [name]) = fs.get? (home ++ [name]) ∨
    (∃ text, name = pathBytes text) ∧ fs.get? (home ++ [name]) = none ∧
      after.get? (home ++ [name]) = some .directory

namespace KeepsSources

variable {after : FileSystem}

theorem file_iff (keeps : KeepsSources fs after home) {content : List UInt8} {written : Nat} :
    after.get? (home ++ [name]) = some (.file content written) ↔
      fs.get? (home ++ [name]) = some (.file content written) := by
  rcases keeps.entry name with same | ⟨-, absent, made⟩
  · rw [same]
  · simp [absent, made]

theorem located (keeps : KeepsSources fs after home)
    (located : Located fs home root vocabulary sources) :
    Located after home root vocabulary sources := by
  refine ⟨?_, located.sorted, ?_⟩
  · intro name entry named lies
    rcases keeps.entry name with same | ⟨⟨text, rfl⟩, -, made⟩
    · rw [same] at lies
      obtain ⟨verdict, judged⟩ := located.judged name entry named lies
      cases entry with
      | link target => exact absurd lies (keeps.free _ _ rfl)
      | file | directory => exact ⟨verdict, judged⟩
    · rw [made] at lies
      cases lies
      refine ⟨none, ?_⟩
      simp only [judge, pathBytes, Utf8.string?_bytes]
      split <;> rfl
  · intro source
    rw [located.mem_iff]
    constructor
    · rintro ⟨name, entry, named, lies, candidate⟩
      cases candidate with
      | file suits => exact ⟨_, _, named, keeps.file_iff.mpr lies, .file suits⟩
      | link => exact absurd lies (keeps.free _ _ rfl)
    · rintro ⟨name, entry, named, lies, candidate⟩
      cases candidate with
      | file suits => exact ⟨_, _, named, keeps.file_iff.mp lies, .file suits⟩
      | link => exact absurd lies (keeps.freeAfter _ _ rfl)

theorem read (keeps : KeepsSources fs after home)
    (located : Located fs home root vocabulary sources) (member : source ∈ sources) :
    Source.read after home source = Source.read fs home source := by
  obtain ⟨name, entry, named, lies, candidate⟩ := (located.mem_iff source).mp member
  cases candidate with
  | link => exact absurd lies (keeps.free _ _ rfl)
  | file suits =>
    have before := FileSystem.readFile_of_name named lies
    have now := FileSystem.readFile_of_name named (keeps.file_iff.mpr lies)
    simp only [Source.read, readBytes, Bool.false_eq_true, if_false, before, now]

end KeepsSources

end Source

end Registrar
