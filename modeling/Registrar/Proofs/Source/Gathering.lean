import Mathlib
import Registrar.Proofs.Source.Listing

/-! Sources in whatever order a directory lists its entries. They are judged one by one as they come
and put in order afterwards; what comes of it, the warnings included, is fixed by what lies in the
directory. -/
namespace Registrar.Source

variable {fs : FileSystem} {home : Location} {root : String} {vocabulary : Vocabulary}
  {entries : List (Name × Entry)} {sources : List SourceFile} {source : SourceFile}

/-- A name that ends like those of sources and is not the one that belongs to the framework. -/
def IsSourceName (vocabulary : Vocabulary) (name : String) : Prop :=
  vocabulary.extension.toList <:+ name.toList ∧ name ≠ vocabulary.frameworkSource

/-- An entry of the directory that is a source: a file, or a link whose path leads to a file, inside
or outside the directory. -/
inductive IsSource (fs : FileSystem) (home : Location) (root : String) (vocabulary : Vocabulary) :
    SourceFile → Prop
  | file {name : String} {content : List UInt8} {written : Nat}
      (listed : (pathBytes name, .file content written) ∈ fs.children home)
      (suits : IsSourceName vocabulary name) :
      IsSource fs home root vocabulary ⟨name, Path.join root name, false⟩
  | link {name : String} {target content : List UInt8} {place : Location} {written : Nat}
      (listed : (pathBytes name, .link target) ∈ fs.children home)
      (suits : IsSourceName vocabulary name)
      (leads : fs.resolve .anywhere .find (pathBytes (Path.join root name)) =
        .ok (.present place (.file content written))) :
      IsSource fs home root vocabulary ⟨name, Path.join root name, true⟩

/-- The entry of that name is a link with a source's name, and its path leads to nothing. -/
def DanglesAs (fs : FileSystem) (root : String) (vocabulary : Vocabulary) (child : Name × Entry)
    (name : String) : Prop :=
  (∃ target, child = (pathBytes name, .link target)) ∧ IsSourceName vocabulary name ∧
    fs.status .anywhere (pathBytes (Path.join root name)) = .error .notFound

/-- All names in the directory are texts, and no link with a source's name fails to lead somewhere
for another reason than that nothing is there. -/
structure Judgeable (fs : FileSystem) (home : Location) (root : String) (vocabulary : Vocabulary) :
    Prop where
  decodable : ∀ child ∈ fs.children home, ∃ name, child.1 = pathBytes name
  resolvable : ∀ name target, (pathBytes name, .link target) ∈ fs.children home →
    IsSourceName vocabulary name → ∀ error,
      fs.status .anywhere (pathBytes (Path.join root name)) = .error error → error = .notFound

/-- What comes of judging a directory. -/
structure Gathers (fs : FileSystem) (home : Location) (root : String) (vocabulary : Vocabulary)
    (run : Logged Error (List SourceFile)) : Prop where
  found : Judgeable fs home root vocabulary → ∃ sources, run.result = .ok sources ∧
    sources.Pairwise (fun left right => pathBytes left.name < pathBytes right.name) ∧
    ∀ source, source ∈ sources ↔ IsSource fs home root vocabulary source
  warned : Judgeable fs home root vocabulary → ∃ dangling : List String, dangling.Nodup ∧
    (∀ name, name ∈ dangling ↔
      ∃ child ∈ fs.children home, DanglesAs fs root vocabulary child name) ∧
    run.events = dangling.map fun name => .danglingLink (Path.join root name)
  refused : ¬ Judgeable fs home root vocabulary →
    ∃ path reason, run.result = .error (.io path reason)

theorem isSourceName_iff {name : String} :
    isSourceName vocabulary name = true ↔ IsSourceName vocabulary name := by
  rw [isSourceName, Bool.and_eq_true, List.isSuffixOf_iff_suffix, bne_iff_ne, IsSourceName]

/-- The outcomes of judging an entry. -/
inductive Judged (fs : FileSystem) (root : String) (vocabulary : Vocabulary) :
    Name × Entry → Logged Error (Option SourceFile) → Prop
  | undecodable {bytes : Name} {entry : Entry} (none : ∀ name, bytes ≠ pathBytes name) :
      Judged fs root vocabulary (bytes, entry) ⟨[], .error (.io root .undecodableName)⟩
  | other {name : String} {entry : Entry} (other : ¬ IsSourceName vocabulary name) :
      Judged fs root vocabulary (pathBytes name, entry) ⟨[], .ok none⟩
  | file {name : String} {content : List UInt8} {written : Nat}
      (suits : IsSourceName vocabulary name) :
      Judged fs root vocabulary (pathBytes name, .file content written)
        ⟨[], .ok (some ⟨name, Path.join root name, false⟩)⟩
  | directory {name : String} :
      Judged fs root vocabulary (pathBytes name, .directory) ⟨[], .ok none⟩
  | link {name : String} {target : List UInt8} {entry : Entry} {verdict : Option SourceFile}
      (suits : IsSourceName vocabulary name)
      (leads : fs.status .anywhere (pathBytes (Path.join root name)) = .ok entry) :
      Judged fs root vocabulary (pathBytes name, .link target) ⟨[], .ok verdict⟩
  | dangling {name : String} {target : List UInt8} (suits : IsSourceName vocabulary name)
      (absent : fs.status .anywhere (pathBytes (Path.join root name)) = .error .notFound) :
      Judged fs root vocabulary (pathBytes name, .link target)
        ⟨[.danglingLink (Path.join root name)], .ok none⟩
  | blocked {name : String} {target : List UInt8} {error : IoError}
      (suits : IsSourceName vocabulary name)
      (failed : fs.status .anywhere (pathBytes (Path.join root name)) = .error error)
      (other : error ≠ .notFound) :
      Judged fs root vocabulary (pathBytes name, .link target)
        ⟨[], .error (.io (Path.join root name) error)⟩

theorem judged (fs : FileSystem) (root : String) (vocabulary : Vocabulary) (child : Name × Entry) :
    Judged fs root vocabulary child (judge fs root vocabulary child) := by
  obtain ⟨bytes, entry⟩ := child
  rw [judge]
  split
  · rename_i undecoded
    refine .undecodable fun name same => ?_
    rw [same, pathBytes, Utf8.string?_bytes] at undecoded
    cases undecoded
  · rename_i name decoded
    obtain rfl := Utf8.bytes_of_string? decoded
    split
    · rename_i suits
      have suits := isSourceName_iff.mp suits
      dsimp only
      split
      · exact .file suits
      · exact .directory
      · split
        · rename_i leads
          exact .link suits leads
        · rename_i leads
          exact .link suits leads
        · rename_i absent
          exact .dangling suits absent
        · rename_i other failed
          exact .blocked suits failed other
    · rename_i unsuited
      exact .other fun suits => unsuited (isSourceName_iff.mpr suits)

theorem name_of_pair {name other : String} {entry another : Entry}
    (pair : (pathBytes name, entry) = (pathBytes other, another)) : name = other :=
  Utf8.bytes_injective (congrArg Prod.fst pair)

theorem judge_error {child : Name × Entry} {error : Error}
    (failed : (judge fs root vocabulary child).result = .error error) :
    ∃ path reason, error = .io path reason := by
  have outcome := judged fs root vocabulary child
  generalize judge fs root vocabulary child = run at outcome failed
  cases outcome with
  | undecodable | blocked =>
    cases failed
    exact ⟨_, _, rfl⟩
  | other | file | directory | link | dangling => cases failed

theorem Judgeable.judge_ok (judgeable : Judgeable fs home root vocabulary) {child : Name × Entry}
    (listed : child ∈ fs.children home) :
    ∃ verdict, (judge fs root vocabulary child).result = .ok verdict := by
  have outcome := judged fs root vocabulary child
  generalize judge fs root vocabulary child = run at outcome ⊢
  cases outcome with
  | undecodable none =>
    obtain ⟨name, same⟩ := judgeable.decodable _ listed
    exact absurd same (none name)
  | blocked suits failed other =>
    exact absurd (judgeable.resolvable _ _ listed suits _ failed) other
  | other | file | directory | link | dangling => exact ⟨_, rfl⟩

theorem judgeable_of_judge (ok : ∀ child ∈ fs.children home,
      ∃ verdict, (judge fs root vocabulary child).result = .ok verdict) :
    Judgeable fs home root vocabulary := by
  constructor
  · intro child listed
    obtain ⟨verdict, done⟩ := ok child listed
    have outcome := judged fs root vocabulary child
    generalize judge fs root vocabulary child = run at outcome done
    cases outcome with
    | undecodable => cases done
    | other | file | directory | link | dangling | blocked => exact ⟨_, rfl⟩
  · intro name target listed suits error failed
    obtain ⟨verdict, done⟩ := ok _ listed
    generalize pair : (pathBytes name, Entry.link target) = child at done
    have outcome := judged fs root vocabulary child
    generalize judge fs root vocabulary child = run at outcome done
    cases outcome with
    | undecodable | blocked => cases done
    | other unsuited => exact absurd (name_of_pair pair ▸ suits) unsuited
    | file | directory => cases congrArg Prod.snd pair
    | link _ leads =>
      rw [← name_of_pair pair, failed] at leads
      cases leads
    | dangling _ absent =>
      rw [← name_of_pair pair, failed, Except.error.injEq] at absent
      exact absent

/-- Locating succeeds where each entry can be judged. -/
theorem exists_locate_iff : (∃ sources, (locate fs home root vocabulary).result = .ok sources) ↔
    Judgeable fs home root vocabulary := by
  constructor
  · rintro ⟨sources, found⟩
    apply judgeable_of_judge
    rintro ⟨name, entry⟩ listed
    obtain ⟨named, lies⟩ := FileSystem.mem_children.mp listed
    exact (locate_eq_ok_iff.mp found).judged name entry named lies
  · intro judgeable
    cases found : (locate fs home root vocabulary).result with
    | ok sources => exact ⟨sources, rfl⟩
    | error error =>
      obtain ⟨child, listed, failed⟩ := gather_error found
      obtain ⟨verdict, done⟩ := judgeable.judge_ok listed
      rw [failed] at done
      cases done

/-- Whatever the order of the listing, the sources are those that locating them gives. -/
theorem gather_eq_locate (listed : entries.Perm (fs.children home)) :
    (gather fs root vocabulary entries).result = .ok sources ↔
      (locate fs home root vocabulary).result = .ok sources := by
  rw [gather_eq_ok_iff_located listed, locate_eq_ok_iff]

/-- The entries of a directory in the order of their names. -/
def listing (fs : FileSystem) (directory : Location) : List (Name × Entry) :=
  (fs.children directory).mergeSort fun left right => Path.bytesLe left.1 right.1

/-- Where the entries are put in order first, the sources need not be: it comes to the same. -/
theorem locate_eq_ok_iff_listing : (locate fs home root vocabulary).result = .ok sources ↔
    ∃ verdicts, List.Forall₂ (fun child verdict =>
      (judge fs root vocabulary child).result = .ok verdict) (listing fs home) verdicts ∧
        verdicts.filterMap id = sources := by
  rw [← gather_eq_locate (List.mergeSort_perm ..), gather_eq_ok_iff]
  refine exists_congr fun verdicts => and_congr_right fun judged => ?_
  have sorted := pairwise_judged judged
    (sorted_mergeSort (FileSystem.children_distinct fs home))
  rw [List.mergeSort_of_pairwise]
  exact sorted.imp fun below => Path.bytesLe_iff.mpr (List.le_of_lt below)

theorem isSource_iff : IsSource fs home root vocabulary source ↔
    ∃ name entry, Path.isName name = true ∧ fs.get? (home ++ [name]) = some entry ∧
      Candidate fs root vocabulary name entry source := by
  constructor
  · rintro (⟨listed, suits⟩ | ⟨listed, suits, leads⟩)
    · obtain ⟨named, lies⟩ := FileSystem.mem_children.mp listed
      exact ⟨_, _, named, lies, .file (isSourceName_iff.mpr suits)⟩
    · obtain ⟨named, lies⟩ := FileSystem.mem_children.mp listed
      exact ⟨_, _, named, lies, .link (isSourceName_iff.mpr suits)
        (FileSystem.status_eq_ok_iff.mpr ⟨_, leads⟩)⟩
  · rintro ⟨name, entry, named, lies, candidate⟩
    have listed := FileSystem.mem_children.mpr ⟨named, lies⟩
    cases candidate with
    | file suits => exact .file listed (isSourceName_iff.mp suits)
    | link suits leads =>
      obtain ⟨place, found⟩ := FileSystem.status_eq_ok_iff.mp leads
      exact .link listed (isSourceName_iff.mp suits) found

/-! ### Warnings -/

/-- An entry is warned about, once, if it is a link that dangles. -/
theorem judge_events (fs : FileSystem) (root : String) (vocabulary : Vocabulary)
    (child : Name × Entry) :
    (∃ name, DanglesAs fs root vocabulary child name ∧
      (judge fs root vocabulary child).events = [.danglingLink (Path.join root name)]) ∨
    (∀ name, ¬ DanglesAs fs root vocabulary child name) ∧
      (judge fs root vocabulary child).events = [] := by
  have outcome := judged fs root vocabulary child
  generalize judge fs root vocabulary child = run at outcome ⊢
  cases outcome with
  | dangling suits absent => exact .inl ⟨_, ⟨⟨_, rfl⟩, suits, absent⟩, rfl⟩
  | undecodable none =>
    refine .inr ⟨?_, rfl⟩
    rintro name ⟨⟨target, pair⟩, -⟩
    exact none name (congrArg Prod.fst pair)
  | other other =>
    refine .inr ⟨?_, rfl⟩
    rintro name ⟨⟨target, pair⟩, suits, -⟩
    exact other (name_of_pair pair ▸ suits)
  | file | directory =>
    refine .inr ⟨?_, rfl⟩
    rintro name ⟨⟨target, pair⟩, -⟩
    cases congrArg Prod.snd pair
  | link _ leads =>
    refine .inr ⟨?_, rfl⟩
    rintro name ⟨⟨target, pair⟩, -, absent⟩
    rw [← name_of_pair pair, leads] at absent
    cases absent
  | blocked _ failed other =>
    refine .inr ⟨?_, rfl⟩
    rintro name ⟨⟨target, pair⟩, -, absent⟩
    rw [← name_of_pair pair, failed, Except.error.injEq] at absent
    exact other absent

/-- The warnings about entries are those about the links among them that dangle, in their order. -/
theorem exists_dangling (fs : FileSystem) (root : String) (vocabulary : Vocabulary)
    (entries : List (Name × Entry)) :
    ∃ dangling : List String, (dangling.map pathBytes).Sublist (entries.map Prod.fst) ∧
      (∀ name, name ∈ dangling ↔ ∃ child ∈ entries, DanglesAs fs root vocabulary child name) ∧
      entries.flatMap (fun child => (judge fs root vocabulary child).events) =
        dangling.map fun name => .danglingLink (Path.join root name) := by
  induction entries with
  | nil => exact ⟨[], .slnil, by simp, rfl⟩
  | cons child entries ih =>
    obtain ⟨dangling, among, complete, events⟩ := ih
    rw [List.flatMap_cons, events]
    simp only [List.exists_mem_cons_iff, ← complete]
    rcases judge_events fs root vocabulary child with ⟨name, dangles, warned⟩ | ⟨none, silent⟩
    · have named := dangles
      obtain ⟨⟨target, rfl⟩, -⟩ := named
      refine ⟨name :: dangling, among.cons_cons _, ?_, by rw [warned]; rfl⟩
      intro other
      rw [List.mem_cons]
      refine or_congr_left ⟨fun equal => equal ▸ dangles, ?_⟩
      rintro ⟨⟨_, pair⟩, -⟩
      exact (name_of_pair pair).symm
    · refine ⟨dangling, among.cons _, fun other => ?_, by rw [silent, List.nil_append]⟩
      exact (or_iff_right (none other)).symm

theorem gather_events (gathered : (gather fs root vocabulary entries).result = .ok sources) :
    (gather fs root vocabulary entries).events =
      entries.flatMap fun child => (judge fs root vocabulary child).events := by
  obtain ⟨verdicts, judged, -⟩ := gather_eq_ok_iff.mp gathered
  have done := Logged.forEach_ok_iff.mpr judged
  rw [gather, Logged.bind_events done, Logged.forEach_events done, Logged.pure_events,
    List.append_nil]

theorem gathers (listed : entries.Perm (fs.children home)) :
    Gathers fs home root vocabulary (gather fs root vocabulary entries) := by
  refine ⟨?_, ?_, ?_⟩
  · intro judgeable
    obtain ⟨sources, found⟩ := exists_locate_iff.mpr judgeable
    have located := locate_eq_ok_iff.mp found
    refine ⟨sources, (gather_eq_locate listed).mpr found, located.sorted, fun source => ?_⟩
    rw [located.mem_iff, isSource_iff]
  · intro judgeable
    obtain ⟨sources, found⟩ := exists_locate_iff.mpr judgeable
    obtain ⟨dangling, among, complete, events⟩ := exists_dangling fs root vocabulary entries
    have distinct : (entries.map Prod.fst).Nodup := by
      rw [(listed.map Prod.fst).nodup_iff, List.nodup_iff_pairwise_ne, List.pairwise_map]
      exact FileSystem.children_distinct fs home
    refine ⟨dangling, (distinct.sublist among).of_map _, fun name => ?_, ?_⟩
    · simp only [complete, listed.mem_iff]
    · rw [gather_events ((gather_eq_locate listed).mpr found), events]
  · intro unjudgeable
    cases gathered : (gather fs root vocabulary entries).result with
    | ok sources =>
      exact absurd (exists_locate_iff.mp ⟨sources, (gather_eq_locate listed).mp gathered⟩) unjudgeable
    | error error =>
      obtain ⟨child, -, failed⟩ := gather_error gathered
      obtain ⟨path, reason, rfl⟩ := judge_error failed
      exact ⟨path, reason, rfl⟩

/-- **Which sources are found.** In whatever order a directory is listed, its sources are found in the
strict order of their names, and exactly the links among them that dangle are warned about, each
once, if all its names can be read and all such links lead somewhere or nowhere; otherwise there is
an I/O error. The list is the one that locating gives. -/
theorem sources_of_listing (listed : entries.Perm (fs.children home)) :
    Gathers fs home root vocabulary (gather fs root vocabulary entries) ∧
      Gathers fs home root vocabulary (locate fs home root vocabulary) ∧
      ∀ sources, (gather fs root vocabulary entries).result = .ok sources ↔
        (locate fs home root vocabulary).result = .ok sources :=
  ⟨gathers listed, gathers (.refl _), fun _ => gather_eq_locate listed⟩

/-- A file, a link to it, one that goes on to a file outside, one to nothing, a directory of a
source's name, and a link in a circle with another extension. -/
def mixedTree : FileSystem :=
  let home := [Utf8.bytes "s"]
  let tree := ((FileSystem.empty.set home .directory).setFile [Utf8.bytes "x"] []).setFile
    (home ++ [Utf8.bytes "b.cpp"]) []
  let linked := ((tree.set (home ++ [Utf8.bytes "a.cpp"]) (.link (Utf8.bytes "e.h"))).set
    (home ++ [Utf8.bytes "e.h"]) (.link (Utf8.bytes "../x"))).set
      (home ++ [Utf8.bytes "c.cpp"]) (.link (Utf8.bytes "gone"))
  (linked.set (home ++ [Utf8.bytes "o.h"]) (.link (Utf8.bytes "o.h"))).set
    (home ++ [Utf8.bytes "d.cpp"]) .directory

/-- The sources are found in the other order of the listing as well. -/
theorem mixedTree_sources :
    let home := [Utf8.bytes "s"]
    (mixedTree.children home).reverse.Perm (mixedTree.children home) ∧
      (gather mixedTree "s" Profile.htest.vocabulary (mixedTree.children home).reverse).result =
        .ok [⟨"a.cpp", "s/a.cpp", true⟩, ⟨"b.cpp", "s/b.cpp", false⟩] := by
  intro home
  have listed := List.reverse_perm (mixedTree.children home)
  obtain ⟨-, -, same⟩ := @sources_of_listing _ _ "s" Profile.htest.vocabulary _ listed
  have found : (locate mixedTree home "s" Profile.htest.vocabulary).result =
      .ok [⟨"a.cpp", "s/a.cpp", true⟩, ⟨"b.cpp", "s/b.cpp", false⟩] := by cbv
  exact ⟨listed, (same _).mpr found⟩

end Registrar.Source
