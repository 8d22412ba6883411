import Mathlib
import Registrar.Proofs.Source.Gathering

/-! Links among the entries of a source directory. Where locating succeeds, a link with a source's
name is returned, reported by one warning, or dropped in silence, as its path leads to a file, to
nothing or to a directory. -/
namespace Registrar

/-- A walk goes on through links and ends at none. -/
theorem FileSystem.Leads.ne_link {fs : FileSystem} {scope : Scope} {purpose : Purpose} {links : Nat}
    {here place : Location} {steps : List Step} {slashed : Bool} {entry : Entry}
    (leads : Leads fs scope purpose links here steps slashed (.present place entry))
    (target : List UInt8) : entry ≠ .link target := by
  generalize goal : Target.present place entry = arrived at leads
  induction leads with
  | arrive | file =>
    cases goal
    simp
  | missing => cases goal
  | stay _ ih | up _ _ ih | enter _ _ _ ih | follow _ _ _ _ ih => exact ih goal

namespace Source

variable {fs : FileSystem} {home : Location} {root : String} {vocabulary : Vocabulary}
  {sources : List SourceFile} {name : String} {target : List UInt8} {entry : Entry}
  {run : Logged Error (List SourceFile)}

/-- What becomes of the link of that name. -/
inductive LinkFate (fs : FileSystem) (root name : String) (sources : List SourceFile)
    (events : List Event) : Prop
  | returned {content : List UInt8} {written : Nat}
      (leads : fs.status .anywhere (pathBytes (Path.join root name)) = .ok (.file content written))
      (source : ⟨name, Path.join root name, true⟩ ∈ sources)
      (unreported : events.count (.danglingLink (Path.join root name)) = 0)
  | reported (leads : fs.status .anywhere (pathBytes (Path.join root name)) = .error .notFound)
      (none : ∀ source ∈ sources, source.name ≠ name)
      (once : events.count (.danglingLink (Path.join root name)) = 1)
  | dropped (leads : fs.status .anywhere (pathBytes (Path.join root name)) = .ok .directory)
      (none : ∀ source ∈ sources, source.name ≠ name)
      (unreported : events.count (.danglingLink (Path.join root name)) = 0)

/-- The link of that name is not lost sight of. -/
def Accounted (root name : String) (sources : List SourceFile) (events : List Event) : Prop :=
  (∃ source ∈ sources, source.name = name) ∨ events.count (.danglingLink (Path.join root name)) = 1

theorem LinkFate.accounted_iff {events : List Event} (fate : LinkFate fs root name sources events) :
    Accounted root name sources events ↔
      fs.status .anywhere (pathBytes (Path.join root name)) ≠ .ok .directory := by
  cases fate with
  | returned leads source => exact iff_of_true (.inl ⟨_, source, rfl⟩) (by simp [leads])
  | reported leads none once => exact iff_of_true (.inr once) (by simp [leads])
  | dropped leads none unreported =>
    refine iff_of_false ?_ (not_not_intro leads)
    rintro (⟨source, member, named⟩ | once)
    · exact none source member named
    · rw [unreported] at once
      cases once

theorem plain_of_listed (listed : (pathBytes name, entry) ∈ fs.children home) :
    '/' ∉ name.toList := by
  obtain ⟨named, -⟩ := FileSystem.mem_children.mp listed
  obtain ⟨-, plain, -⟩ := Path.isName_iff.mp named
  exact fun slash => plain (Utf8.slash_mem_bytes.mpr slash)

/-- Names in one directory are told apart by the paths to them. -/
theorem join_injective (root : String) {left right : String} (plain : '/' ∉ left.toList)
    (other : '/' ∉ right.toList) (same : Path.join root left = Path.join root right) :
    left = right := by
  obtain ⟨stem, joined⟩ := Path.join_append root ""
  simp only [String.empty_append] at joined
  rw [joined left plain, joined right other] at same
  exact (String.append_right_inj stem).mp same

/-- Each link that dangles is warned about once, and no other entry is. -/
theorem Gathers.events (gathers : Gathers fs home root vocabulary run)
    (judgeable : Judgeable fs home root vocabulary) : run.events.Nodup ∧
    ∀ name, '/' ∉ name.toList → (Event.danglingLink (Path.join root name) ∈ run.events ↔
      ∃ child ∈ fs.children home, DanglesAs fs root vocabulary child name) := by
  obtain ⟨dangling, distinct, complete, events⟩ := gathers.warned judgeable
  have plain : ∀ name ∈ dangling, '/' ∉ name.toList := by
    intro name member
    obtain ⟨child, listed, ⟨target, rfl⟩, -⟩ := (complete name).mp member
    exact plain_of_listed listed
  rw [events]
  constructor
  · apply distinct.map_on
    intro left known right other same
    exact join_injective root (plain left known) (plain right other) (Event.danglingLink.inj same)
  · intro name noSlash
    rw [← complete, List.mem_map]
    constructor
    · rintro ⟨other, member, same⟩
      obtain rfl := join_injective root (plain other member) noSlash (Event.danglingLink.inj same)
      exact member
    · exact fun member => ⟨name, member, rfl⟩

/-- Of a link's name, the one source there may be is the link, if its path leads to a file. -/
theorem leads_of_isSource {source : SourceFile} (found : IsSource fs home root vocabulary source)
    (listed : (pathBytes source.name, .link target) ∈ fs.children home) :
    ∃ content written, fs.status .anywhere (pathBytes (Path.join root source.name)) =
      .ok (.file content written) := by
  cases found with
  | file other =>
    obtain ⟨-, link⟩ := FileSystem.mem_children.mp listed
    obtain ⟨-, file⟩ := FileSystem.mem_children.mp other
    rw [link] at file
    cases file
  | link _ _ leads => exact ⟨_, _, FileSystem.status_eq_ok_iff.mpr ⟨_, leads⟩⟩

theorem fate_of_gathers (gathers : Gathers fs home root vocabulary run)
    (judgeable : Judgeable fs home root vocabulary) (found : run.result = .ok sources)
    (listed : (pathBytes name, .link target) ∈ fs.children home)
    (suits : IsSourceName vocabulary name) : LinkFate fs root name sources run.events := by
  obtain ⟨all, same, -, complete⟩ := gathers.found judgeable
  obtain rfl := Except.ok.inj (found.symm.trans same)
  obtain ⟨distinct, reported⟩ := gathers.events judgeable
  have reported := reported name (plain_of_listed listed)
  have none (unled : ∀ content written, fs.status .anywhere (pathBytes (Path.join root name)) ≠
      .ok (.file content written)) : ∀ source ∈ sources, source.name ≠ name := by
    rintro source member rfl
    obtain ⟨content, written, leads⟩ := leads_of_isSource ((complete source).mp member) listed
    exact unled content written leads
  have unreported (present : ∀ error, fs.status .anywhere (pathBytes (Path.join root name)) ≠
      .error error) : run.events.count (.danglingLink (Path.join root name)) = 0 := by
    refine List.count_eq_zero.mpr fun warned => ?_
    obtain ⟨child, -, -, -, absent⟩ := reported.mp warned
    exact present _ absent
  cases status : fs.status .anywhere (pathBytes (Path.join root name)) with
  | error error =>
    obtain rfl := judgeable.resolvable name target listed suits error status
    refine .reported status (none (by simp [status])) (List.count_eq_one_of_mem distinct ?_)
    exact reported.mpr ⟨_, listed, ⟨target, rfl⟩, suits, status⟩
  | ok entry =>
    have unreported := unreported (by simp [status])
    obtain ⟨place, leads⟩ := FileSystem.status_eq_ok_iff.mp status
    cases entry with
    | file content written =>
      exact .returned status ((complete _).mpr (.link listed suits leads)) unreported
    | directory => exact .dropped status (none (by simp [status])) unreported
    | link further =>
      obtain ⟨_, _, -, -, walked⟩ := FileSystem.resolve_eq_ok_iff.mp leads
      exact absurd rfl (walked.ne_link further)

/-- **Which links are accounted for.** Where the sources are located, each link with a source's name is
returned as a source if its path leads to a file, reported by one warning that names its path if that
leads to nothing, and dropped in silence if it leads to a directory; there is no other case. So the
links that are neither returned nor reported once are those to directories. -/
theorem links_accounted (found : (locate fs home root vocabulary).result = .ok sources)
    (listed : (pathBytes name, .link target) ∈ fs.children home)
    (suits : IsSourceName vocabulary name) :
    LinkFate fs root name sources (locate fs home root vocabulary).events ∧
      (Accounted root name sources (locate fs home root vocabulary).events ↔
        fs.status .anywhere (pathBytes (Path.join root name)) ≠ .ok .directory) := by
  have judgeable := exists_locate_iff.mp ⟨sources, found⟩
  have gathers : Gathers fs home root vocabulary (locate fs home root vocabulary) :=
    gathers (.refl _)
  have fate := fate_of_gathers gathers judgeable found listed suits
  exact ⟨fate, fate.accounted_iff⟩

/-- A directory with three links of a source's name: to a file outside, to nothing and to a directory. -/
def threeLinks : FileSystem :=
  let home := [Utf8.bytes "s"]
  let tree := ((FileSystem.empty.set home .directory).setFile [Utf8.bytes "x"] []).set
    (home ++ [Utf8.bytes "d"]) .directory
  ((tree.set (home ++ [Utf8.bytes "a.cpp"]) (.link (Utf8.bytes "../x"))).set
    (home ++ [Utf8.bytes "b.cpp"]) (.link (Utf8.bytes "gone"))).set
      (home ++ [Utf8.bytes "c.cpp"]) (.link (Utf8.bytes "d"))

theorem locate_threeLinks :
    (locate threeLinks [Utf8.bytes "s"] "s" Profile.htest.vocabulary).result =
        .ok [⟨"a.cpp", "s/a.cpp", true⟩] ∧
      (locate threeLinks [Utf8.bytes "s"] "s" Profile.htest.vocabulary).events =
        [.danglingLink "s/b.cpp"] :=
  ⟨by cbv, by cbv⟩

/-- The link to nothing is reported once, and the one to a directory is lost. -/
theorem threeLinks_accounted :
    let found := locate threeLinks [Utf8.bytes "s"] "s" Profile.htest.vocabulary
    found.events.count (.danglingLink "s/b.cpp") = 1 ∧
      ¬ Accounted "s" "c.cpp" [⟨"a.cpp", "s/a.cpp", true⟩] found.events := by
  obtain ⟨located, -⟩ := locate_threeLinks
  have dangling : (pathBytes "b.cpp", .link (Utf8.bytes "gone")) ∈
      threeLinks.children [Utf8.bytes "s"] := by decide
  have leading : (pathBytes "c.cpp", .link (Utf8.bytes "d")) ∈
      threeLinks.children [Utf8.bytes "s"] := by decide
  obtain ⟨-, second⟩ := links_accounted located dangling (isSourceName_iff.mp (by cbv))
  obtain ⟨-, third⟩ := links_accounted located leading (isSourceName_iff.mp (by cbv))
  constructor
  · have nowhere : threeLinks.status .anywhere (pathBytes (Path.join "s" "b.cpp")) ≠
        .ok .directory := by decide +kernel
    have path : Path.join "s" "b.cpp" = "s/b.cpp" := by decide +kernel
    rcases second.mpr nowhere with ⟨source, member, named⟩ | once
    · obtain rfl := List.mem_singleton.mp member
      exact absurd named (by decide)
    · rwa [path] at once
  · exact fun accounted => third.mp accounted (by decide +kernel)

/-- A link to a directory is neither returned nor reported. -/
theorem link_not_always_accounted : ¬ ∀ (fs : FileSystem) (home : Location) (root : String)
    (vocabulary : Vocabulary) (sources : List SourceFile) (name : String) (target : List UInt8),
    (locate fs home root vocabulary).result = .ok sources →
      (pathBytes name, .link target) ∈ fs.children home → IsSourceName vocabulary name →
      Accounted root name sources (locate fs home root vocabulary).events := by
  intro always
  obtain ⟨located, events⟩ := locate_threeLinks
  have accounted := always _ _ _ _ _ "c.cpp" (Utf8.bytes "d") located (by decide)
    (isSourceName_iff.mp (by cbv))
  rw [events] at accounted
  rcases accounted with ⟨source, member, named⟩ | once
  · obtain rfl := List.mem_singleton.mp member
    exact absurd named (by decide)
  · exact absurd once (by decide +kernel)

end Source

end Registrar
