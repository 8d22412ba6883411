import Registrar.FileSystem.Operations

/-! Successful walks as a relation, with one rule for each way to take a step. The walk function
decides it, so that facts about paths are proved by induction over the steps that were taken. -/
namespace Registrar.FileSystem

/-- Whether the walk may take the step to a name: the name has an admissible length, and a file is
not to be created where a directory is asked for. -/
def MayStep (purpose : Purpose) (name : Name) (rest : List Step) (slashed : Bool) : Prop :=
  ¬ (purpose = .create ∧ rest = [] ∧ slashed = true) ∧ name.length ≤ Path.longestName

/-- The directory from which a link in `here` is followed, unless that is forbidden. -/
def origin (scope : Scope) (here : Location) (path : Path) : Option Location :=
  if path.absolute then
    match scope with
    | .anywhere => some []
    | .beneath _ => none
  else some here

variable {fs : FileSystem} {scope : Scope} {purpose : Purpose}

/-- The walk from `here` ends at the target and follows at most `links` links. -/
inductive Leads (fs : FileSystem) (scope : Scope) (purpose : Purpose) :
    Nat → Location → List Step → Bool → Target → Prop
  | arrive {links : Nat} {here : Location} {slashed : Bool} :
      Leads fs scope purpose links here [] slashed (.present here .directory)
  | stay {links : Nat} {here : Location} {steps : List Step} {slashed : Bool} {target : Target}
      (rest : Leads fs scope purpose links here steps slashed target) :
      Leads fs scope purpose links here (.stay :: steps) slashed target
  | up {links : Nat} {here : Location} {steps : List Step} {slashed : Bool} {target : Target}
      (inside : scope ≠ .beneath here)
      (rest : Leads fs scope purpose links here.dropLast steps slashed target) :
      Leads fs scope purpose links here (.up :: steps) slashed target
  | missing {links : Nat} {here : Location} {name : Name} {slashed : Bool}
      (may : MayStep purpose name [] slashed) (absent : fs.get? (here ++ [name]) = none) :
      Leads fs scope purpose links here [.down name] slashed (.missing (here ++ [name]))
  | enter {links : Nat} {here : Location} {name : Name} {steps : List Step} {slashed : Bool}
      {target : Target} (may : MayStep purpose name steps slashed)
      (directory : fs.get? (here ++ [name]) = some .directory)
      (rest : Leads fs scope purpose links (here ++ [name]) steps slashed target) :
      Leads fs scope purpose links here (.down name :: steps) slashed target
  | file {links : Nat} {here : Location} {name : Name} {content : List UInt8} {written : Nat}
      (may : MayStep purpose name [] false)
      (found : fs.get? (here ++ [name]) = some (.file content written)) :
      Leads fs scope purpose links here [.down name] false
        (.present (here ++ [name]) (.file content written))
  | follow {links : Nat} {here there : Location} {name : Name} {path : List UInt8}
      {steps : List Step} {slashed : Bool} {target : Target}
      (may : MayStep purpose name steps slashed)
      (link : fs.get? (here ++ [name]) = some (.link path))
      (start : origin scope here (Path.parse path) = some there)
      (rest : Leads fs scope purpose links there ((Path.parse path).steps ++ steps)
        (slashed || (steps = [] && (Path.parse path).slashed)) target) :
      Leads fs scope purpose (links + 1) here (.down name :: steps) slashed target

theorem traverse_down (follow : Location → Path → List Step → Bool → Except IoError Target)
    {here : Location} {name : Name} {rest : List Step} {slashed : Bool}
    (may : MayStep purpose name rest slashed) :
    fs.traverse scope purpose follow here (.down name :: rest) slashed =
      match fs.get? (here ++ [name]) with
      | none => if rest = [] then .ok (.missing (here ++ [name])) else .error .notFound
      | some .directory => fs.traverse scope purpose follow (here ++ [name]) rest slashed
      | some (.file content written) =>
        if rest = [] ∧ ¬ slashed then .ok (.present (here ++ [name]) (.file content written))
        else .error .notDirectory
      | some (.link target) => follow here (Path.parse target) rest slashed := by
  have short : ¬ name.length > Path.longestName := Nat.not_lt.mpr may.2
  rw [traverse, if_neg may.1]
  exact if_neg short

theorem mayStep_of_traverse {follow : Location → Path → List Step → Bool → Except IoError Target}
    {here : Location} {name : Name} {rest : List Step} {slashed : Bool} {target : Target}
    (walked : fs.traverse scope purpose follow here (.down name :: rest) slashed = .ok target) :
    MayStep purpose name rest slashed := by
  rw [traverse] at walked
  split at walked
  · cases walked
  rename_i allowed
  split at walked
  · cases walked
  rename_i short
  exact ⟨allowed, by omega⟩

/-- A traversal succeeds as the relation says, if the links it meets do. -/
theorem leads_of_traverse {links : Nat}
    {follow : Location → Path → List Step → Bool → Except IoError Target}
    (followed : ∀ here path steps slashed target, follow here path steps slashed = .ok target →
      ∃ fewer there, links = fewer + 1 ∧ origin scope here path = some there ∧
        Leads fs scope purpose fewer there (path.steps ++ steps)
          (slashed || (steps = [] && path.slashed)) target)
    {here : Location} {steps : List Step} {slashed : Bool} {target : Target}
    (walked : fs.traverse scope purpose follow here steps slashed = .ok target) :
    Leads fs scope purpose links here steps slashed target := by
  induction steps generalizing here with
  | nil =>
    cases walked
    exact .arrive
  | cons step steps ih =>
    cases step with
    | stay => exact .stay (ih walked)
    | up =>
      rw [traverse] at walked
      split at walked
      · cases walked
      rename_i inside
      exact .up inside (ih walked)
    | down name =>
      have may := mayStep_of_traverse walked
      rw [traverse_down follow may] at walked
      split at walked
      · rename_i absent
        split at walked
        · rename_i last
          cases walked
          subst last
          exact .missing may absent
        · cases walked
      · rename_i directory
        exact .enter may directory (ih walked)
      · rename_i content written found
        split at walked
        · rename_i last
          obtain ⟨rfl, plain⟩ := last
          cases walked
          cases slashed
          · exact .file may found
          · exact absurd rfl plain
        · cases walked
      · rename_i path link
        obtain ⟨fewer, there, rfl, start, rest⟩ := followed _ _ _ _ _ walked
        exact .follow may link start rest

theorem leads_of_walk {links : Nat} {here : Location} {steps : List Step} {slashed : Bool}
    {target : Target} (walked : fs.walk scope purpose links here steps slashed = .ok target) :
    Leads fs scope purpose links here steps slashed target := by
  induction links generalizing here steps slashed target with
  | zero =>
    rw [walk] at walked
    refine leads_of_traverse ?_ walked
    intro here path steps slashed target followed
    cases followed
  | succ links ih =>
    rw [walk] at walked
    refine leads_of_traverse ?_ walked
    intro here path steps slashed target followed
    refine ⟨links, ?_⟩
    unfold origin
    split at followed
    · rename_i absolute
      cases scope with
      | beneath top => cases followed
      | anywhere => exact ⟨[], rfl, by rw [if_pos absolute], ih followed⟩
    · rename_i relative
      exact ⟨here, rfl, by rw [if_neg relative], ih followed⟩

theorem walk_up {links : Nat} {here : Location} {steps : List Step} {slashed : Bool}
    (inside : scope ≠ .beneath here) : fs.walk scope purpose links here (.up :: steps) slashed =
      fs.walk scope purpose links here.dropLast steps slashed := by
  cases links <;> simp only [FileSystem.walk, traverse, if_neg inside]

theorem walk_directory {links : Nat} {here : Location} {name : Name} {steps : List Step}
    {slashed : Bool} (may : MayStep purpose name steps slashed)
    (directory : fs.get? (here ++ [name]) = some .directory) :
    fs.walk scope purpose links here (.down name :: steps) slashed =
      fs.walk scope purpose links (here ++ [name]) steps slashed := by
  cases links <;> simp only [FileSystem.walk, traverse_down _ may, directory]

theorem walk_link {links : Nat} {here there : Location} {name : Name} {path : List UInt8}
    {steps : List Step} {slashed : Bool} (may : MayStep purpose name steps slashed)
    (link : fs.get? (here ++ [name]) = some (.link path))
    (start : origin scope here (Path.parse path) = some there) :
    fs.walk scope purpose (links + 1) here (.down name :: steps) slashed =
      fs.walk scope purpose links there ((Path.parse path).steps ++ steps)
        (slashed || (steps = [] && (Path.parse path).slashed)) := by
  simp only [FileSystem.walk, traverse_down _ may, link]
  unfold origin at start
  split at start
  · rename_i absolute
    rw [if_pos absolute]
    cases scope with
    | beneath top => cases start
    | anywhere =>
      cases start
      rfl
  · rename_i relative
    rw [if_neg relative]
    cases start
    rfl

theorem Leads.walk {links : Nat} {here : Location} {steps : List Step} {slashed : Bool}
    {target : Target} (leads : Leads fs scope purpose links here steps slashed target) :
    fs.walk scope purpose links here steps slashed = .ok target := by
  induction leads with
  | @arrive links => cases links <;> rfl
  | @stay links _ _ _ _ _ ih => cases links <;> exact ih
  | up inside _ ih => exact (walk_up inside).trans ih
  | @missing links _ _ _ may absent =>
    cases links <;> rw [FileSystem.walk, traverse_down _ may, absent] <;> rfl
  | enter may directory _ ih => exact (walk_directory may directory).trans ih
  | @file links _ _ _ _ may found =>
    cases links <;> rw [FileSystem.walk, traverse_down _ may, found] <;> rfl
  | follow may link start _ ih => exact (walk_link may link start).trans ih

theorem walk_eq_ok_iff {links : Nat} {here : Location} {steps : List Step} {slashed : Bool}
    {target : Target} : fs.walk scope purpose links here steps slashed = .ok target ↔
      Leads fs scope purpose links here steps slashed target :=
  ⟨leads_of_walk, Leads.walk⟩

theorem Leads.of_directory {links : Nat} {here : Location} {name : Name} {steps : List Step}
    {slashed : Bool} {target : Target}
    (leads : Leads fs scope purpose links here (.down name :: steps) slashed target)
    (directory : fs.get? (here ++ [name]) = some .directory) :
    Leads fs scope purpose links (here ++ [name]) steps slashed target := by
  cases leads with
  | missing _ other | file _ other | follow _ other => rw [directory] at other; cases other
  | enter _ _ rest => exact rest

theorem Leads.of_link {links : Nat} {here there : Location} {name : Name} {path : List UInt8}
    {steps : List Step} {slashed : Bool} {target : Target}
    (leads : Leads fs scope purpose links here (.down name :: steps) slashed target)
    (link : fs.get? (here ++ [name]) = some (.link path))
    (start : origin scope here (Path.parse path) = some there) :
    ∃ fewer ending, Leads fs scope purpose fewer there ((Path.parse path).steps ++ steps) ending
      target := by
  cases leads with
  | missing _ other | file _ other | enter _ other => rw [link] at other; cases other
  | follow _ other begun rest =>
    cases link.symm.trans other
    cases start.symm.trans begun
    exact ⟨_, _, rest⟩

end Registrar.FileSystem
