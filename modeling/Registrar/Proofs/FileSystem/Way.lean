import Registrar.Proofs.FileSystem.Access
import Registrar.Proofs.FileSystem.Confinement

/-! Directories on the way of a path. Those that are made along it are opened by the path afterwards,
or by one of the paths above it; a component joined to a path opens an entry of its directory. -/
namespace Registrar.FileSystem

variable {fs before after : FileSystem} {scope : Scope} {purpose : Purpose} {path : Path}
  {parts : List Path} {here place : Location}

theorem resolvePath_eq_ok_iff {target : Target} : fs.resolvePath scope purpose path = .ok target ↔
    ∃ here, fs.start scope path = .ok here ∧
      Leads fs scope purpose linkLimit here path.steps path.slashed target := by
  simp only [resolvePath, bind_eq_ok_iff, walk_eq_ok_iff]

/-- One of the paths opens the directory at the place. -/
def OpenedBy (fs : FileSystem) (parts : List Path) (place : Location) : Prop :=
  ∃ part ∈ parts, fs.resolvePath .anywhere .find part = .ok (.present place .directory)

theorem OpenedBy.keepsTree (keeps : KeepsTree before after) (opened : OpenedBy before parts place) :
    OpenedBy after parts place := by
  obtain ⟨part, member, found⟩ := opened
  obtain ⟨here, started, leads⟩ := resolvePath_eq_ok_iff.mp found
  refine ⟨part, member, resolvePath_eq_ok_iff.mpr ⟨here, ?_, leads.enters keeps⟩⟩
  rw [start_eq .anywhere part keeps.home, started]

/-- The one change is that directories appear where nothing lay, and one of the paths opens each. -/
structure GrowsAlong (parts : List Path) (before after : FileSystem) : Prop where
  adds : AddsDirectories before after
  opened : ∀ place, before.get? place = none → after.get? place = some .directory →
    OpenedBy after parts place

theorem GrowsAlong.refl (parts : List Path) (fs : FileSystem) : GrowsAlong parts fs fs := by
  refine ⟨.refl fs, ?_⟩
  intro place absent made
  rw [absent] at made
  cases made

theorem GrowsAlong.trans {first second third : FileSystem} (left : GrowsAlong parts first second)
    (right : GrowsAlong parts second third) : GrowsAlong parts first third := by
  refine ⟨left.adds.trans right.adds, ?_⟩
  intro place absent made
  rcases right.adds.entry place with same | ⟨still, -⟩
  · rw [same] at made
    exact (left.opened place absent made).keepsTree right.adds.keepsTree
  · exact right.opened place still made

theorem GrowsAlong.mono {more : List Path} (grows : GrowsAlong parts before after)
    (among : parts ⊆ more) : GrowsAlong more before after := by
  refine ⟨grows.adds, ?_⟩
  intro place absent made
  obtain ⟨part, member, found⟩ := grows.opened place absent made
  exact ⟨part, among member, found⟩

/-- A walk that must end in a directory does. -/
theorem Leads.directory {links : Nat} {steps : List Step} {entry : Entry}
    (leads : Leads fs scope purpose links here steps true (.present place entry)) :
    entry = .directory := by
  generalize asked : true = slashed at leads
  generalize goal : Target.present place entry = target at leads
  induction leads with
  | arrive => exact (Target.present.inj goal).2
  | stay _ ih | up _ _ ih | enter _ _ _ ih => exact ih asked goal
  | missing => cases goal
  | file => cases asked
  | follow _ _ _ _ ih =>
    subst asked
    exact ih rfl goal

theorem leads_of_namedPlace (named : fs.namedPlace path = .ok place) :
    ∃ here steps parent name, fs.start .anywhere path = .ok here ∧
      path.steps = steps ++ [.down name] ∧ name.length ≤ Path.longestName ∧
      Leads fs .anywhere .find linkLimit here steps true (.present parent .directory) ∧
      place = parent ++ [name] := by
  obtain ⟨here, started, named⟩ := bind_eq_ok_iff.mp named
  obtain ⟨target, walked, named⟩ := bind_eq_ok_iff.mp named
  split at named
  · rename_i parent entry name last
    split at named
    · cases named
    · rename_i short
      cases named
      obtain ⟨steps, taken⟩ := List.getLast?_eq_some_iff.mp last
      rw [taken, List.dropLast_concat] at walked
      have leads := leads_of_walk walked
      cases leads.directory
      exact ⟨here, steps, parent, name, started, taken, Nat.not_lt.mp short, leads, rfl⟩
  · cases named
  · cases named

/-- The directory that is made is the one that the path opens then. -/
theorem makeDirectory_grows (made : fs.makeDirectory path = .ok after) :
    GrowsAlong [path] fs after := by
  have adds := makeDirectory_adds made
  obtain ⟨new, chosen, ⟨⟩⟩ := bind_eq_ok_iff.mp made
  refine ⟨adds, ?_⟩
  intro place absent lies
  by_cases same : place = new
  · subst same
    obtain ⟨there, named, chosen⟩ := bind_eq_ok_iff.mp chosen
    split at chosen
    · cases chosen
    cases chosen
    obtain ⟨here, steps, parent, name, started, taken, short, leads, rfl⟩ :=
      leads_of_namedPlace named
    refine ⟨path, List.mem_singleton_self path, resolvePath_eq_ok_iff.mpr ⟨here, ?_, ?_⟩⟩
    · rw [start_eq .anywhere path adds.home, started]
    · rw [taken]
      refine (leads.enters adds.keepsTree).onward ?_
      intro links ending
      exact .enter ⟨by rintro ⟨⟨⟩, -⟩, short⟩ lies .arrive
  · rw [get?_set_other fs _ same, absent] at lies
    cases lies

theorem makeNested_grows (fs : FileSystem) (parts : List Path) :
    GrowsAlong parts fs (fs.makeNested parts).1 := by
  apply makeNested_steps (.refl parts) .trans
  intro part member before after made
  exact (makeDirectory_grows made).mono (by simpa using member)

/-- Joined with one component, a path opens the entry of its directory, unless that is a link. -/
theorem place_of_join {first second : String} (component : Path.IsComponent second)
    (opened : fs.openDirectory .anywhere (Utf8.bytes first) = .ok here)
    (noLink : ∀ target, fs.get? (here ++ [Utf8.bytes second]) ≠ some (.link target))
    (joined : fs.openDirectory .anywhere (Utf8.bytes (Path.join first second)) = .ok place) :
    place = here ++ [Utf8.bytes second] ∧ fs.get? place = some .directory := by
  obtain ⟨path, start, read, started, leads⟩ :=
    resolve_eq_ok_iff.mp (openDirectory_eq_ok_iff.mp opened)
  obtain rfl := path_of_readPath read
  obtain ⟨whole, begin, readWhole, begun, onward⟩ :=
    resolve_eq_ok_iff.mp (openDirectory_eq_ok_iff.mp joined)
  obtain rfl := path_of_readPath readWhole
  have given : first ≠ "" := by
    intro none
    exact nonempty_of_readPath read (Utf8.bytes_eq_nil_iff.mpr none)
  rw [Path.parse_join given component.ordinary component.plain] at begun onward
  cases started.symm.trans begun
  obtain ⟨_, _, last⟩ := leads.through onward
  exact last.place_of_down noLink

end Registrar.FileSystem
