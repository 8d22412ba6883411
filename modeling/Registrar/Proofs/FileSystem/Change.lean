import Registrar.Proofs.FileSystem.Leads

/-! Changes that keep directories and links. Every walk that took its way through them takes the
same way afterwards, and ends at what then lies at its end. -/
namespace Registrar.FileSystem

/-- Directories and links stay; files may come and change. -/
structure KeepsTree (before after : FileSystem) : Prop where
  directory : ∀ place, before.get? place = some .directory → after.get? place = some .directory
  link : ∀ place target, before.get? place = some (.link target) →
    after.get? place = some (.link target)
  home : after.workingDirectory = before.workingDirectory

/-- The one change is that directories appear where nothing lay. -/
structure AddsDirectories (before after : FileSystem) : Prop where
  entry : ∀ place, after.get? place = before.get? place ∨
    before.get? place = none ∧ after.get? place = some .directory
  home : after.workingDirectory = before.workingDirectory

/-- Whether a file lies, or may be created, at a place. -/
def IsFree (fs : FileSystem) (place : Location) : Prop :=
  fs.get? place = none ∨ ∃ content written, fs.get? place = some (.file content written)

/-- No symbolic link lies in the directory tree. -/
def LinkFree (fs : FileSystem) (top : Location) : Prop :=
  ∀ place target, isWithin top place = true → fs.get? place ≠ some (.link target)

/-- No file comes, goes or changes. -/
def SameFiles (before after : FileSystem) : Prop :=
  ∀ place content written, after.get? place = some (.file content written) ↔
    before.get? place = some (.file content written)

variable {fs before after : FileSystem} {scope : Scope} {purpose : Purpose}

theorem KeepsTree.refl (fs : FileSystem) : KeepsTree fs fs :=
  ⟨fun _ same => same, fun _ _ same => same, rfl⟩

theorem KeepsTree.trans {first second third : FileSystem} (left : KeepsTree first second)
    (right : KeepsTree second third) : KeepsTree first third where
  directory place lies := right.directory place (left.directory place lies)
  link place target lies := right.link place target (left.link place target lies)
  home := right.home.trans left.home

theorem AddsDirectories.refl (fs : FileSystem) : AddsDirectories fs fs :=
  ⟨fun _ => .inl rfl, rfl⟩

theorem AddsDirectories.trans {first second third : FileSystem}
    (left : AddsDirectories first second) (right : AddsDirectories second third) :
    AddsDirectories first third := by
  refine ⟨?_, right.home.trans left.home⟩
  intro place
  rcases right.entry place with same | ⟨absent, made⟩
  · rw [same]
    exact left.entry place
  · rcases left.entry place with same | ⟨-, present⟩
    · exact .inr ⟨same ▸ absent, made⟩
    · rw [absent] at present
      cases present

theorem AddsDirectories.keeps {place : Location} {entry : Entry}
    (adds : AddsDirectories before after) (lies : before.get? place = some entry) :
    after.get? place = some entry := by
  rcases adds.entry place with same | ⟨absent, -⟩
  · rw [same, lies]
  · rw [absent] at lies
    cases lies

theorem AddsDirectories.keepsTree (adds : AddsDirectories before after) :
    KeepsTree before after where
  directory _ := adds.keeps
  link _ _ := adds.keeps
  home := adds.home

theorem AddsDirectories.origin {place : Location} {entry : Entry}
    (adds : AddsDirectories before after) (lies : after.get? place = some entry)
    (other : entry ≠ .directory) : before.get? place = some entry := by
  rcases adds.entry place with same | ⟨-, made⟩
  · rw [← same, lies]
  · rw [lies, Option.some.injEq] at made
    exact absurd made other

theorem AddsDirectories.sameFiles (adds : AddsDirectories before after) :
    SameFiles before after := by
  intro place content written
  constructor
  · intro lies
    exact adds.origin lies (by simp)
  · exact adds.keeps

/-- Nothing can be created at the root. -/
theorem place_ne_nil {place : Location} (free : fs.IsFree place) : place ≠ [] := by
  rintro rfl
  rcases free with absent | ⟨_, _, found⟩
  · simp [get?] at absent
  · simp [get?] at found

theorem get?_setFile_same {place : Location} (content : List UInt8) (free : fs.IsFree place) :
    (fs.setFile place content).get? place = some (.file content fs.clock) :=
  get?_set_same fs _ (place_ne_nil free)

theorem get?_setFile_other {place other : Location} (content : List UInt8)
    (different : other ≠ place) : (fs.setFile place content).get? other = fs.get? other :=
  get?_set_other fs _ different

theorem origin_setFile {place there : Location} {content : List UInt8} {entry : Entry}
    (free : fs.IsFree place) (lies : (fs.setFile place content).get? there = some entry)
    (other : ∀ bytes written, entry ≠ .file bytes written) : fs.get? there = some entry := by
  by_cases same : there = place
  · rw [same, get?_setFile_same content free, Option.some.injEq] at lies
    exact absurd lies.symm (other _ _)
  · rwa [get?_setFile_other content same] at lies

theorem keepsTree_setFile {place : Location} (content : List UInt8) (free : fs.IsFree place) :
    KeepsTree fs (fs.setFile place content) := by
  have other {there : Location} {entry : Entry} (lies : fs.get? there = some entry)
      (noFile : ∀ content written, entry ≠ .file content written) : there ≠ place := by
    rintro rfl
    rcases free with absent | ⟨_, _, found⟩
    · rw [lies] at absent
      cases absent
    · rw [lies, Option.some.injEq] at found
      exact noFile _ _ found
  refine ⟨?_, ?_, rfl⟩
  · intro there lies
    have apart := other lies (by simp)
    rw [get?_setFile_other content apart, lies]
  · intro there target lies
    have apart := other lies (by simp)
    rw [get?_setFile_other content apart, lies]

theorem addsDirectories_set {place : Location} (absent : fs.get? place = none) :
    AddsDirectories fs (fs.set place .directory) := by
  refine ⟨?_, rfl⟩
  intro there
  by_cases same : there = place
  · subst same
    exact .inr ⟨absent, get?_set_same fs _ (place_ne_nil (.inl absent))⟩
  · exact .inl (get?_set_other fs _ same)

theorem Leads.enters {links : Nat} {here place : Location} {steps : List Step} {slashed : Bool}
    (keeps : KeepsTree before after)
    (leads : Leads before scope purpose links here steps slashed (.present place .directory)) :
    Leads after scope purpose links here steps slashed (.present place .directory) := by
  generalize goal : Target.present place .directory = target at leads
  induction leads with
  | arrive => cases goal; exact .arrive
  | stay _ ih => exact .stay (ih goal)
  | up inside _ ih => exact .up inside (ih goal)
  | missing => cases goal
  | enter may directory _ ih => exact .enter may (keeps.directory _ directory) (ih goal)
  | file => cases goal
  | follow may link start _ ih => exact .follow may (keeps.link _ _ link) start (ih goal)

/-- The end of a walk that finds a file at a place, or may create one there. -/
inductive EndsAt : Purpose → Location → Target → Prop
  | create {place : Location} : EndsAt .create place (.missing place)
  | file {purpose : Purpose} {place : Location} {content : List UInt8} {written : Nat} :
      EndsAt purpose place (.present place (.file content written))

/-- A walk to a place for a file leads to the file that lies there afterwards. -/
theorem Leads.reaches {links : Nat} {here place : Location} {steps : List Step} {slashed : Bool}
    {target : Target} {content : List UInt8} {written : Nat} (keeps : KeepsTree before after)
    (leads : Leads before scope purpose links here steps slashed target)
    (ends : EndsAt purpose place target)
    (lies : after.get? place = some (.file content written)) :
    Leads after scope purpose links here steps slashed (.present place (.file content written)) := by
  induction leads with
  | arrive => cases ends
  | stay _ ih => exact .stay (ih ends)
  | up inside _ ih => exact .up inside (ih ends)
  | @missing _ _ _ slashed may _ =>
    cases ends
    cases slashed with
    | false => exact .file may lies
    | true => exact absurd ⟨rfl, rfl, rfl⟩ may.1
  | enter may directory _ ih => exact .enter may (keeps.directory _ directory) (ih ends)
  | file may _ =>
    cases ends
    exact .file may lies
  | follow may link start _ ih => exact .follow may (keeps.link _ _ link) start (ih ends)

theorem Leads.find {links : Nat} {here : Location} {steps : List Step} {slashed : Bool}
    {target : Target} (leads : Leads fs scope purpose links here steps slashed target) :
    Leads fs scope .find links here steps slashed target := by
  have may {name : Name} {rest : List Step} {slashed : Bool}
      (may : MayStep purpose name rest slashed) : MayStep .find name rest slashed :=
    ⟨by rintro ⟨⟨⟩, -⟩, may.2⟩
  induction leads with
  | arrive => exact .arrive
  | stay _ ih => exact .stay ih
  | up inside _ ih => exact .up inside ih
  | missing allowed absent => exact .missing (may allowed) absent
  | enter allowed directory _ ih => exact .enter (may allowed) directory ih
  | file allowed found => exact .file (may allowed) found
  | follow allowed link start _ ih => exact .follow (may allowed) link start ih

/-- No walk that asks for a directory ends at a file. -/
theorem Leads.unslashed {links : Nat} {here place : Location} {steps : List Step} {slashed : Bool}
    {content : List UInt8} {written : Nat}
    (leads : Leads fs scope purpose links here steps slashed
      (.present place (.file content written))) : slashed = false := by
  generalize goal : Target.present place (.file content written) = target at leads
  induction leads with
  | arrive | missing => cases goal
  | stay _ ih | up _ _ ih | enter _ _ _ ih => exact ih goal
  | file => rfl
  | follow _ _ _ _ ih => exact (Bool.or_eq_false_iff.mp (ih goal)).1

/-- A walk that finds a file finds it also where one is to be created. -/
theorem Leads.create {links : Nat} {here place : Location} {steps : List Step} {slashed : Bool}
    {content : List UInt8} {written : Nat}
    (leads : Leads fs scope purpose links here steps slashed
      (.present place (.file content written))) :
    Leads fs scope .create links here steps slashed (.present place (.file content written)) := by
  have may {name : Name} {rest : List Step} {slashed : Bool} (may : MayStep purpose name rest slashed)
      (plain : slashed = false) : MayStep .create name rest slashed :=
    ⟨by simp [plain], may.2⟩
  generalize goal : Target.present place (.file content written) = target at leads ⊢
  induction leads with
  | arrive | missing => cases goal
  | stay _ ih => exact .stay (ih goal)
  | up inside _ ih => exact .up inside (ih goal)
  | enter allowed directory rest ih =>
    subst goal
    exact .enter (may allowed rest.unslashed) directory (ih rfl)
  | file allowed found => exact .file (may allowed rfl) found
  | follow allowed link start rest ih =>
    subst goal
    exact .follow (may allowed (Bool.or_eq_false_iff.mp rest.unslashed).1) link start (ih rfl)

theorem Leads.isFree {links : Nat} {here place : Location} {steps : List Step} {slashed : Bool}
    {target : Target} (leads : Leads fs scope purpose links here steps slashed target)
    (ends : EndsAt purpose place target) : fs.IsFree place := by
  induction leads with
  | arrive => cases ends
  | stay _ ih | up _ _ ih | enter _ _ _ ih | follow _ _ _ _ ih => exact ih ends
  | missing _ absent =>
    cases ends
    exact .inl absent
  | file _ found =>
    cases ends
    exact .inr ⟨_, _, found⟩

/-- Nothing lies where a walk ends at a missing name. -/
theorem Leads.absent {links : Nat} {here place : Location} {steps : List Step} {slashed : Bool}
    (leads : Leads fs scope purpose links here steps slashed (.missing place)) :
    fs.get? place = none := by
  generalize goal : Target.missing place = target at leads
  induction leads with
  | arrive | file => cases goal
  | stay _ ih | up _ _ ih | enter _ _ _ ih | follow _ _ _ _ ih => exact ih goal
  | missing _ absent =>
    cases goal
    exact absent

theorem Leads.lies {links : Nat} {here place : Location} {steps : List Step} {slashed : Bool}
    {content : List UInt8} {written : Nat}
    (leads : Leads fs scope purpose links here steps slashed (.present place (.file content written))) :
    fs.get? place = some (.file content written) := by
  generalize goal : Target.present place (.file content written) = target at leads
  induction leads with
  | arrive | missing => cases goal
  | stay _ ih | up _ _ ih | enter _ _ _ ih | follow _ _ _ _ ih => exact ih goal
  | file _ found =>
    cases goal
    exact found

end Registrar.FileSystem
