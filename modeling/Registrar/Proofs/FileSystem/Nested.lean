import Mathlib.Data.List.Induction
import Registrar.Proofs.FileSystem.Way

/-! Directories made one below the other. A path that goes down from a directory by names of which
nothing is there gets one directory for each of them, and nothing else. -/
namespace Registrar.FileSystem

variable {fs made : FileSystem} {scope : Scope} {here parent place : Location} {links : Nat}
  {steps others rest : List Step} {slashed ending : Bool} {name : Name} {names : List Name}
  {path : Path} {paths : List Path}

theorem Leads.stays {target : Target} (stays : ∀ step ∈ steps, ¬ (step != Step.stay) = true)
    (leads : Leads fs scope .find links here rest ending target) :
    Leads fs scope .find links here (steps ++ rest) ending target := by
  induction steps with
  | nil => exact leads
  | cons step steps ih =>
    obtain ⟨first, others⟩ := List.forall_mem_cons.mp stays
    obtain rfl : step = .stay := by simpa using first
    exact .stay (ih others)

/-- Steps that stay make no difference to a walk that finds a directory. -/
theorem Leads.of_filter
    (leads : Leads fs scope .find links here steps slashed (.present place .directory))
    (same : others.filter (· != .stay) = steps.filter (· != .stay)) :
    Leads fs scope .find links here others ending (.present place .directory) := by
  generalize goal : Target.present place .directory = target at leads
  induction leads generalizing others ending with
  | arrive =>
    cases goal
    rw [← List.append_nil others]
    exact .stays (List.filter_eq_nil_iff.mp same) .arrive
  | stay _ ih => exact ih same goal
  | up inside _ ih =>
    obtain ⟨front, rest, rfl, stays, -, same⟩ := List.filter_eq_cons_iff.mp same
    exact .stays stays (.up inside (ih same goal))
  | missing | file => cases goal
  | enter may directory _ ih =>
    obtain ⟨front, rest, rfl, stays, -, same⟩ := List.filter_eq_cons_iff.mp same
    exact .stays stays (.enter ⟨by rintro ⟨⟨⟩, -⟩, may.2⟩ directory (ih same goal))
  | follow may link start _ ih =>
    obtain ⟨front, rest, rfl, stays, -, same⟩ := List.filter_eq_cons_iff.mp same
    refine .stays stays (.follow ⟨by rintro ⟨⟨⟩, -⟩, may.2⟩ link start (ih ?_ goal))
    rw [List.filter_append, List.filter_append, same]

/-- Beyond a missing name a walk finds nothing. -/
theorem Leads.walk_absent
    (leads : Leads fs scope .find links here steps slashed (.present place .directory))
    (short : name.length ≤ Path.longestName) (absent : fs.get? (place ++ [name]) = none) :
    fs.walk scope .find links here (steps ++ .down name :: rest) ending =
      if rest = [] then .ok (.missing (place ++ [name])) else .error .notFound := by
  have may {name : Name} {rest : List Step} {ending : Bool} (short : name.length ≤ Path.longestName) :
      MayStep .find name rest ending := ⟨by rintro ⟨⟨⟩, -⟩, short⟩
  generalize goal : Target.present place .directory = target at leads
  induction leads generalizing ending with
  | @arrive links =>
    cases goal
    cases links <;>
      simp only [List.nil_append, FileSystem.walk, traverse_down _ (may short), absent]
  | @stay links _ _ _ _ _ ih => cases links <;> exact ih goal
  | up inside _ ih => exact (walk_up inside).trans (ih goal)
  | missing | file => cases goal
  | enter step directory _ ih => exact (walk_directory (may step.2) directory).trans (ih goal)
  | follow step link start _ ih =>
    rw [List.append_assoc] at ih
    exact (walk_link (may step.2) link start).trans (ih goal)

/-- The path goes down from the directory by the names, whatever way it takes to the directory. -/
def Descends (fs : FileSystem) (path : Path) (parent : Location) (names : List Name) : Prop :=
  ∃ here steps, fs.start .anywhere path = .ok here ∧ path.steps = steps ++ names.map .down ∧
    Leads fs .anywhere .find linkLimit here steps true (.present parent .directory)

/-- Nothing lies where the names lead from the directory, and none is longer than names can be. -/
structure Lacks (fs : FileSystem) (parent : Location) (names : List Name) : Prop where
  absent : ∀ more, more ≠ [] → more <+: names → fs.get? (parent ++ more) = none
  short : ∀ name ∈ names, name.length ≤ Path.longestName

/-- For each of the names a directory is added, one below the other, and nothing else. -/
structure AddsNames (parent : Location) (names : List Name) (before after : FileSystem) : Prop where
  made : ∀ more, more ≠ [] → more <+: names → after.get? (parent ++ more) = some .directory
  other : ∀ place, (∀ more, more ≠ [] → more <+: names → place ≠ parent ++ more) →
    after.get? place = before.get? place
  home : after.workingDirectory = before.workingDirectory

theorem Lacks.init (lacks : Lacks fs parent (names ++ [name])) : Lacks fs parent names where
  absent more some among := lacks.absent more some (among.trans (List.prefix_append _ _))
  short name member := lacks.short name (List.mem_append_left _ member)

theorem AddsNames.adds (adds : AddsNames parent names fs made) (lacks : Lacks fs parent names) :
    AddsDirectories fs made := by
  refine ⟨fun place => ?_, adds.home⟩
  by_cases new : ∃ more, more ≠ [] ∧ more <+: names ∧ place = parent ++ more
  · obtain ⟨more, some, among, rfl⟩ := new
    exact .inr ⟨lacks.absent more some among, adds.made more some among⟩
  · exact .inl (adds.other place fun more some among same => new ⟨more, some, among, same⟩)

/-- After a walk to the directory the names lead to the last of the directories added. -/
theorem AddsNames.leads (adds : AddsNames parent names fs made) (lacks : Lacks fs parent names)
    (leads : Leads fs scope .find links here steps slashed (.present parent .directory)) :
    Leads made scope .find links here (steps ++ names.map .down) ending
      (.present (parent ++ names) .directory) := by
  refine (leads.enters (adds.adds lacks).keepsTree).onward fun links ending => ?_
  have made := adds.made
  have short := lacks.short
  clear adds lacks leads
  induction names generalizing parent with
  | nil => simpa using .arrive
  | cons name names ih =>
    obtain ⟨first, short⟩ := List.forall_mem_cons.mp short
    rw [List.append_cons]
    refine .enter ⟨by rintro ⟨⟨⟩, -⟩, first⟩ (made [name] (by simp) (by simp)) (ih ?_ short)
    intro more some among
    rw [List.append_assoc]
    exact made (name :: more) (by simp) ((List.prefix_cons_inj name).mpr among)

theorem makeDirectory_of_absent (started : fs.start .anywhere path = .ok here)
    (taken : path.steps = steps ++ [.down name])
    (leads : Leads fs .anywhere .find linkLimit here steps true (.present place .directory))
    (short : name.length ≤ Path.longestName) (absent : fs.get? (place ++ [name]) = none) :
    fs.makeDirectory path = .ok (fs.set (place ++ [name]) .directory) := by
  simp only [makeDirectory, newPlace, namedPlace_of_leads started taken leads,
    if_neg (Nat.not_lt.mpr short), bind, Except.bind, absent]
  rfl

/-- A walk to the last of the missing names finds nothing, wherever it stops. -/
theorem Lacks.walk (lacks : Lacks fs parent names) (some : names ≠ [])
    (leads : Leads fs scope .find links here steps slashed (.present parent .directory))
    (ending : Bool) :
    fs.walk scope .find links here (steps ++ names.map .down) ending = .error .notFound ∨
      ∃ place, fs.walk scope .find links here (steps ++ names.map .down) ending =
        .ok (.missing place) := by
  obtain ⟨first, names, rfl⟩ := List.exists_cons_of_ne_nil some
  have absent : fs.get? (parent ++ [first]) = none := lacks.absent [first] (by simp) (by simp)
  rw [List.map_cons, leads.walk_absent (lacks.short first (by simp)) absent]
  by_cases lone : names.map Step.down = []
  · exact .inr ⟨_, if_pos lone⟩
  · exact .inl (if_neg lone)

/-- No directory can be made below one that is missing. -/
theorem makeDirectory_of_lacks (descends : Descends fs path parent (names ++ [name]))
    (some : names ≠ []) (lacks : Lacks fs parent (names ++ [name])) :
    fs.makeDirectory path = .error .notFound := by
  obtain ⟨here, steps, started, taken, leads⟩ := descends
  have above : path.steps.dropLast = steps ++ names.map .down := by
    rw [taken, List.map_append, List.map_singleton, ← List.append_assoc, List.dropLast_concat]
  rcases lacks.init.walk some leads true with walked | ⟨place, walked⟩ <;>
    simp only [makeDirectory, newPlace, namedPlace, started, above, walked, bind, Except.bind]

/-- The names, and for each of them, from the last to the first, a path that goes down to it; other
paths may follow. -/
inductive Cascade (fs : FileSystem) (parent : Location) : List Name → List Path → Prop
  | one {name : Name} {path : Path} {above : List Path} (descends : Descends fs path parent [name]) :
      Cascade fs parent [name] (path :: above)
  | more {names : List Name} {name : Name} {path : Path} {above : List Path}
      (descends : Descends fs path parent (names ++ [name])) (rest : Cascade fs parent names above) :
      Cascade fs parent (names ++ [name]) (path :: above)

theorem Cascade.ne_nil (cascade : Cascade fs parent names paths) : names ≠ [] := by
  cases cascade <;> simp

theorem AddsNames.refl (parent : Location) (fs : FileSystem) : AddsNames parent [] fs fs := by
  refine ⟨?_, fun place _ => rfl, rfl⟩
  intro more some among
  exact absurd (List.prefix_nil.mp among) some

/-- The next directory is made below those that were. -/
theorem AddsNames.next (adds : AddsNames parent names fs made)
    (lacks : Lacks fs parent (names ++ [name]))
    (descends : Descends fs path parent (names ++ [name])) :
    ∃ after, made.makeDirectory path = .ok after ∧ AddsNames parent (names ++ [name]) fs after := by
  obtain ⟨here, steps, started, taken, leads⟩ := descends
  have begun : made.start .anywhere path = .ok here := by
    rw [start_eq .anywhere path adds.home, started]
  have last : path.steps = (steps ++ names.map .down) ++ [.down name] := by
    simp [taken]
  have new : parent ++ names ++ [name] = parent ++ (names ++ [name]) := List.append_assoc ..
  -- The places of the directories that were made are nearer to the parent than the new one.
  have apart {more : List Name} (among : more <+: names) :
      parent ++ more ≠ parent ++ (names ++ [name]) := by
    intro same
    rw [List.append_cancel_left same] at among
    have longer := among.length_le
    rw [List.length_append, List.length_singleton] at longer
    omega
  have absent : made.get? (parent ++ (names ++ [name])) = none := by
    rw [adds.other _ fun more _ among => (apart among).symm]
    exact lacks.absent _ (by simp) (List.prefix_refl _)
  have done := makeDirectory_of_absent begun last (adds.leads lacks.init leads)
    (lacks.short name (by simp)) (new ▸ absent)
  rw [new] at done
  refine ⟨_, done, ?_, ?_, adds.home⟩
  · intro more some among
    rcases List.prefix_concat_iff.mp among with rfl | among
    · exact get?_set_same _ _ (by simp)
    · rw [get?_set_other _ _ (apart among), adds.made more some among]
  · intro place other
    rw [get?_set_other _ _ (other _ (by simp) (List.prefix_refl _))]
    exact adds.other place fun more some among =>
      other more some (among.trans (List.prefix_append _ _))

/-- A missing directory is made after those above it. -/
theorem makeNested_of_cascade (cascade : Cascade fs parent names paths)
    (lacks : Lacks fs parent names) :
    ∃ made, fs.makeNested paths = (made, .ok ()) ∧ AddsNames parent names fs made := by
  induction cascade with
  | @one name path above descends =>
    obtain ⟨made, done, adds⟩ := (AddsNames.refl parent fs).next lacks descends
    refine ⟨made, ?_, adds⟩
    simp only [makeNested, done]
  | @more names name path above descends rest ih =>
    obtain ⟨below, nested, adds⟩ := ih lacks.init
    obtain ⟨made, done, adds⟩ := adds.next lacks descends
    refine ⟨made, ?_, adds⟩
    simp only [makeNested, makeDirectory_of_lacks descends rest.ne_nil lacks, nested, done]

/-- The paths of the first `count` steps, of one less and so on, down to one. -/
def beginnings (absolute : Bool) (steps : List Step) (count : Nat) : List Path :=
  (List.range count).reverse.map fun count => ⟨absolute, steps.take (count + 1), false⟩

theorem beginnings_succ (absolute : Bool) (steps : List Step) (count : Nat) :
    beginnings absolute steps (count + 1) =
      ⟨absolute, steps.take (count + 1), false⟩ :: beginnings absolute steps count := by
  simp [beginnings, List.range_succ]

/-- The beginnings of a path that goes down by names go down by those names, one less each. -/
theorem cascade_beginnings (started : fs.start .anywhere path = .ok here)
    (leads : Leads fs .anywhere .find linkLimit here steps true (.present parent .directory))
    (some : names ≠ []) (taken : steps ++ names.map .down <+: others) :
    Cascade fs parent names (beginnings path.absolute others (steps.length + names.length)) := by
  induction names using List.reverseRecOn with
  | nil => exact absurd rfl some
  | append_singleton names name ih =>
    have length : (steps ++ (names ++ [name]).map Step.down).length =
        steps.length + names.length + 1 := by simp [Nat.add_assoc]
    have whole := List.prefix_iff_eq_take.mp taken
    rw [length] at whole
    have descends : Descends fs ⟨path.absolute, others.take (steps.length + names.length + 1), false⟩
        parent (names ++ [name]) := ⟨here, steps, started, whole.symm, leads⟩
    rw [List.length_append, List.length_singleton, ← Nat.add_assoc, beginnings_succ]
    rcases names.eq_nil_or_concat' with rfl | ⟨init, last, rfl⟩
    · exact .one descends
    · refine .more descends (ih (by simp) (.trans ?_ taken))
      simp

theorem parents_eq (path : Path) : path.parents = beginnings path.absolute
    (path.steps.filter (· != .stay)) ((path.steps.filter (· != .stay)).length - 1) := rfl

/-- A path that goes down by names, and the paths above it. -/
theorem cascade_of_descends (descends : Descends fs path parent names) (some : names ≠ []) :
    Cascade fs parent names (path :: path.parents) := by
  have way := descends
  obtain ⟨here, steps, started, taken, leads⟩ := way
  have plain : (names.map Step.down).filter (· != .stay) = names.map .down := by
    simp [List.filter_eq_self]
  have filtered : path.steps.filter (· != .stay) =
      steps.filter (· != .stay) ++ names.map .down := by
    rw [taken, List.filter_append, plain]
  have leads : Leads fs .anywhere .find linkLimit here (steps.filter (· != .stay)) true
      (.present parent .directory) := leads.of_filter (by simp)
  obtain ⟨init, last, rfl⟩ := (List.eq_nil_or_concat' names).resolve_left some
  have count : (steps.filter (· != .stay) ++ (init ++ [last]).map Step.down).length - 1 =
      (steps.filter (· != .stay)).length + init.length := by
    simp
  -- The paths above leave out the steps that stay, and lead to the parent all the same.
  rw [parents_eq, filtered, count]
  rcases init.eq_nil_or_concat' with rfl | ⟨before, name, rfl⟩
  · exact .one descends
  · exact .more descends (cascade_beginnings started leads (by simp) (by simp))

/-- **A path to what is missing is made.** Where the path goes down from a directory by names of which
nothing is there, each of them gets a directory, and nothing else is added. -/
theorem makeDirectories_of_lacks (descends : Descends fs path parent names) (some : names ≠ [])
    (lacks : Lacks fs parent names) :
    ∃ made, fs.makeDirectories path = (made, .ok ()) ∧ AddsNames parent names fs made :=
  makeNested_of_cascade (cascade_of_descends descends some) lacks

end Registrar.FileSystem
