import Registrar.Proofs.FileSystem.Change

/-! Walks that stay below a directory, and walks that meet no link. Where no link lies, the last
step of a path names the place where the path ends. -/
namespace Registrar.FileSystem

variable {fs : FileSystem} {scope : Scope} {purpose : Purpose} {top here : Location}

theorem isWithin_iff {place : Location} : isWithin top place = true ↔ top <+: place :=
  List.isPrefixOf_iff_prefix

theorem isWithin_self (top : Location) : isWithin top top = true :=
  isWithin_iff.mpr (List.prefix_refl top)

theorem isWithin_append (inside : isWithin top here = true) (names : Location) :
    isWithin top (here ++ names) = true :=
  isWithin_iff.mpr ((isWithin_iff.mp inside).trans (List.prefix_append here names))

theorem isWithin_dropLast (inside : isWithin top here = true) (below : here ≠ top) :
    isWithin top here.dropLast = true := by
  obtain ⟨names, rfl⟩ := isWithin_iff.mp inside
  have some : names ≠ [] := by
    rintro rfl
    exact below (List.append_nil top)
  rw [isWithin_iff, List.dropLast_append_of_ne_nil some]
  exact List.prefix_append top _

theorem LinkFree.mono {below : Location} (free : fs.LinkFree top)
    (inside : isWithin top below = true) : fs.LinkFree below := by
  intro place target within
  exact free place target
    (isWithin_iff.mpr ((isWithin_iff.mp inside).trans (isWithin_iff.mp within)))

/-- A link is followed from the directory it lies in, where the walk is confined. -/
theorem origin_beneath {there : Location} {path : Path}
    (start : origin (.beneath top) here path = some there) : there = here := by
  unfold origin at start
  split at start
  · cases start
  · exact (Option.some.inj start).symm

/-- In a tree without links, a confined path ends in a directory, or in one of the tree at the name
that its last step gives. -/
theorem Leads.named {links : Nat} {before : List Step} {name : Name} {slashed : Bool}
    {place : Location} {target : Target}
    (leads : Leads fs (.beneath top) purpose links here (before ++ [.down name]) slashed target)
    (free : fs.LinkFree top) (inside : isWithin top here = true)
    (ends : EndsAt purpose place target) :
    ∃ parent, isWithin top parent = true ∧ place = parent ++ [name] := by
  generalize taken : before ++ [Step.down name] = steps at leads
  induction leads generalizing before with
  | arrive => simp at taken
  | stay rest ih =>
    cases before with
    | nil => cases taken
    | cons step before =>
      rw [List.cons_append, List.cons.injEq] at taken
      exact ih inside ends taken.2
  | @up _ here _ _ _ atTop rest ih =>
    cases before with
    | nil => cases taken
    | cons step before =>
      rw [List.cons_append, List.cons.injEq] at taken
      refine ih (isWithin_dropLast inside ?_) ends taken.2
      rintro rfl
      exact atTop rfl
  | @missing _ here =>
    cases ends
    cases before with
    | nil => cases taken; exact ⟨here, inside, rfl⟩
    | cons step before => simp at taken
  | @enter _ here other _ _ _ _ _ rest ih =>
    cases before with
    | nil =>
      cases taken
      cases rest
      cases ends
    | cons step before =>
      rw [List.cons_append, List.cons.injEq] at taken
      exact ih (isWithin_append inside _) ends taken.2
  | @file _ here =>
    cases ends
    cases before with
    | nil => cases taken; exact ⟨here, inside, rfl⟩
    | cons step before => simp at taken
  | follow _ link => exact absurd link (free _ _ (isWithin_append inside _))

/-- A confined path does not leave the tree, whatever links it meets. -/
theorem Leads.within {links : Nat} {steps : List Step} {slashed : Bool} {place : Location}
    {target : Target} (leads : Leads fs (.beneath top) purpose links here steps slashed target)
    (inside : isWithin top here = true) (ends : EndsAt purpose place target) :
    isWithin top place = true := by
  induction leads with
  | arrive => cases ends
  | stay _ ih => exact ih inside ends
  | @up _ here _ _ _ atTop _ ih =>
    refine ih (isWithin_dropLast inside ?_) ends
    rintro rfl
    exact atTop rfl
  | missing | file =>
    cases ends
    exact isWithin_append inside _
  | enter _ _ _ ih => exact ih (isWithin_append inside _) ends
  | follow _ _ start _ ih => exact ih (origin_beneath start ▸ inside) ends

/-- From `here`, the steps lead out of the tree below `top`: they go up from `top`, or through a link
to an absolute path. Where they would end is not asked, so steps that come back have left as well,
and so have steps through names that are missing. -/
inductive Leaves (fs : FileSystem) (top : Location) : Location → List Step → Prop
  | up {steps : List Step} : Leaves fs top top (.up :: steps)
  | absolute {here : Location} {name : Name} {path : List UInt8} {steps : List Step}
      (link : fs.get? (here ++ [name]) = some (.link path))
      (absolute : (Path.parse path).absolute = true) : Leaves fs top here (.down name :: steps)
  | stay {here : Location} {steps : List Step} (rest : Leaves fs top here steps) :
      Leaves fs top here (.stay :: steps)
  | back {here : Location} {steps : List Step} (rest : Leaves fs top here.dropLast steps) :
      Leaves fs top here (.up :: steps)
  | pass {here : Location} {name : Name} {steps : List Step}
      (noLink : ∀ path, fs.get? (here ++ [name]) ≠ some (.link path))
      (rest : Leaves fs top (here ++ [name]) steps) : Leaves fs top here (.down name :: steps)
  | follow {here : Location} {name : Name} {path : List UInt8} {steps : List Step}
      (link : fs.get? (here ++ [name]) = some (.link path))
      (relative : (Path.parse path).absolute = false)
      (rest : Leaves fs top here ((Path.parse path).steps ++ steps)) :
      Leaves fs top here (.down name :: steps)

/-- A path taken from `top` leaves the tree below it. -/
def LeavesBy (fs : FileSystem) (top : Location) (path : Path) : Prop :=
  path.absolute = true ∨ Leaves fs top top path.steps

/-- No link comes or goes. -/
def SameLinks (before after : FileSystem) : Prop :=
  ∀ place target, after.get? place = some (.link target) ↔ before.get? place = some (.link target)

theorem AddsDirectories.sameLinks {after : FileSystem} (adds : AddsDirectories fs after) :
    SameLinks fs after := by
  intro place target
  constructor
  · intro lies
    exact adds.origin lies (by simp)
  · exact adds.keeps

theorem SameLinks.refl (fs : FileSystem) : SameLinks fs fs :=
  fun _ _ => Iff.rfl

theorem SameLinks.trans {first second third : FileSystem} (left : SameLinks first second)
    (right : SameLinks second third) : SameLinks first third :=
  fun place target => (right place target).trans (left place target)

theorem LinkFree.sameLinks {after : FileSystem} (free : fs.LinkFree top)
    (same : SameLinks fs after) : after.LinkFree top := by
  intro place target within lies
  exact free place target within ((same place target).mp lies)

theorem LinkFree.addsDirectories {after : FileSystem} (free : fs.LinkFree top)
    (adds : AddsDirectories fs after) : after.LinkFree top :=
  free.sameLinks adds.sameLinks

theorem Leaves.sameLinks {after : FileSystem} {steps : List Step} (same : SameLinks fs after)
    (leaves : Leaves fs top here steps) : Leaves after top here steps := by
  induction leaves with
  | up => exact .up
  | absolute link absolute => exact .absolute ((same _ _).mpr link) absolute
  | stay _ ih => exact .stay ih
  | back _ ih => exact .back ih
  | pass noLink _ ih => exact .pass (fun path link => noLink path ((same _ _).mp link)) ih
  | follow link relative _ ih => exact .follow ((same _ _).mpr link) relative ih

theorem LeavesBy.sameLinks {after : FileSystem} {path : Path} (same : SameLinks fs after)
    (leaves : LeavesBy fs top path) : LeavesBy after top path :=
  leaves.imp_right (Leaves.sameLinks same)

/-- A confined walk takes no steps that leave. -/
theorem Leads.not_leaves {links : Nat} {steps : List Step} {slashed : Bool} {target : Target}
    (leads : Leads fs (.beneath top) purpose links here steps slashed target) :
    ¬ Leaves fs top here steps := by
  intro leaves
  induction leads with
  | arrive => cases leaves
  | stay _ ih =>
    cases leaves with
    | stay rest => exact ih rest
  | up inside _ ih =>
    cases leaves with
    | up => exact inside rfl
    | back rest => exact ih rest
  | missing _ lies | file _ lies =>
    cases leaves with
    | absolute link | follow link => rw [lies] at link; cases link
    | pass _ rest => cases rest
  | enter _ directory _ ih =>
    cases leaves with
    | absolute link | follow link => rw [directory] at link; cases link
    | pass _ rest => exact ih rest
  | follow _ link start _ ih =>
    cases leaves with
    | pass noLink => exact noLink _ link
    | absolute found absolute =>
      cases link.symm.trans found
      simp [origin, absolute] at start
    | follow found _ rest =>
      cases link.symm.trans found
      exact ih (origin_beneath start ▸ rest)

/-- A free walk from inside the tree that ends outside has left it. -/
theorem Leads.leaves {links : Nat} {steps : List Step} {slashed : Bool} {place : Location}
    {target : Target} (leads : Leads fs .anywhere purpose links here steps slashed target)
    (inside : isWithin top here = true) (ends : EndsAt purpose place target)
    (outside : isWithin top place = false) : Leaves fs top here steps := by
  have never {name : Name} {here : Location} (inside : isWithin top here = true)
      (outside : isWithin top (here ++ [name]) = false) {steps : List Step} :
      Leaves fs top here steps := by
    rw [isWithin_append inside] at outside
    cases outside
  induction leads with
  | arrive => cases ends
  | stay _ ih => exact .stay (ih inside ends)
  | @up _ here _ _ _ _ _ ih =>
    by_cases atTop : here = top
    · exact atTop ▸ .up
    · exact .back (ih (isWithin_dropLast inside atTop) ends)
  | missing | file =>
    cases ends
    exact never inside outside
  | enter _ directory _ ih => exact .pass (by simp [directory]) (ih (isWithin_append inside _) ends)
  | @follow _ _ _ _ path _ _ _ _ link start _ ih =>
    cases absolute : (Path.parse path).absolute with
    | true => exact .absolute link absolute
    | false =>
      simp only [origin, absolute, Bool.false_eq_true, if_false, Option.some.injEq] at start
      subst start
      exact .follow link absolute (ih inside ends)

/-- A walk to a directory goes on from there with steps that follow no link. -/
theorem Leads.onward {links : Nat} {place : Location} {steps rest : List Step}
    {slashed ending : Bool} {target : Target}
    (leads : Leads fs scope .find links here steps slashed (.present place .directory))
    (on : ∀ links ending, Leads fs scope .find links place rest ending target) :
    Leads fs scope .find links here (steps ++ rest) ending target := by
  generalize goal : Target.present place .directory = arrived at leads
  induction leads generalizing ending with
  | arrive => cases goal; exact on _ _
  | stay _ ih => exact .stay (ih goal)
  | up inside _ ih => exact .up inside (ih goal)
  | missing | file => cases goal
  | enter may directory _ ih => exact .enter ⟨by rintro ⟨⟨⟩, -⟩, may.2⟩ directory (ih goal)
  | follow may link start _ ih =>
    refine .follow ⟨by rintro ⟨⟨⟩, -⟩, may.2⟩ link start ?_
    simp only [List.append_assoc] at ih
    exact ih goal

/-- A walk that begins with the way to a directory goes through it. -/
theorem Leads.through {links more : Nat} {place : Location} {steps rest : List Step}
    {slashed ending : Bool} {target : Target}
    (leads : Leads fs scope .find links here steps slashed (.present place .directory))
    (whole : Leads fs scope .find more here (steps ++ rest) ending target) :
    ∃ fewer left, Leads fs scope .find fewer place rest left target := by
  generalize goal : Target.present place .directory = arrived at leads
  induction leads generalizing more ending with
  | arrive => cases goal; exact ⟨more, ending, whole⟩
  | stay _ ih =>
    cases whole with
    | stay whole => exact ih whole goal
  | up inside _ ih =>
    cases whole with
    | up _ whole => exact ih whole goal
  | missing | file => cases goal
  | enter _ directory _ ih => exact ih (whole.of_directory directory) goal
  | follow _ link start _ ih =>
    obtain ⟨_, _, whole⟩ := whole.of_link link start
    simp only [List.append_assoc] at ih
    exact ih whole goal

theorem Leads.place_of_down {links : Nat} {place : Location} {name : Name} {slashed : Bool}
    (noLink : ∀ target, fs.get? (here ++ [name]) ≠ some (.link target))
    (leads : Leads fs scope purpose links here [.down name] slashed (.present place .directory)) :
    place = here ++ [name] ∧ fs.get? place = some .directory := by
  generalize goal : Target.present place .directory = target at leads
  cases leads with
  | missing | file => cases goal
  | enter _ directory rest =>
    cases rest
    cases goal
    exact ⟨rfl, directory⟩
  | follow _ link => exact absurd link (noLink _)

end Registrar.FileSystem
