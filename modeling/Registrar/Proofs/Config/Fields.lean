import Mathlib.Data.List.Sort
import Mathlib.Data.String.Basic
import Registrar.Config.Value

/-! Tables as maps from keys to values. Where the fields are in order, a table is known by what it
holds at each key, and a merged table holds at each key the two values merged. -/
namespace Registrar.Config

namespace Fields

variable {fields others : Fields} {key other : String} {value : Value}

/-- In the order of their keys, and no key twice. -/
def Sorted (fields : Fields) : Prop :=
  fields.Pairwise fun left right => left.1 < right.1

theorem get?_cons (fields : Fields) (key other : String) (value : Value) :
    get? ((key, value) :: fields) other = if other = key then some value else get? fields other := by
  rw [get?, get?, List.lookup_cons]
  by_cases same : other = key
  · simp [same]
  · rw [if_neg same, beq_eq_false_iff_ne.mpr same]

theorem get?_set (fields : Fields) (key other : String) (value : Value) :
    get? (set key value fields) other = if other = key then some value else get? fields other := by
  induction fields with
  | nil => exact get?_cons [] key other value
  | cons field fields ih =>
    obtain ⟨first, old⟩ := field
    rw [set]
    split
    · rename_i same
      subst same
      rw [get?_cons, get?_cons]
      split <;> rfl
    · split
      · rw [get?_cons]
      · rename_i different _
        rw [get?_cons, get?_cons, ih]
        by_cases here : other = first
        · rw [if_pos here, if_pos here, if_neg (here ▸ Ne.symm different)]
        · rw [if_neg here, if_neg here]

theorem mem_set {field : String × Value} (member : field ∈ set key value fields) :
    field = (key, value) ∨ field ∈ fields := by
  induction fields with
  | nil => exact .inl (List.mem_singleton.mp member)
  | cons first fields ih =>
    rw [set] at member
    split at member
    · rcases List.mem_cons.mp member with here | further
      · exact .inl here
      · exact .inr (List.mem_cons_of_mem _ further)
    · split at member
      · exact List.mem_cons.mp member
      · rcases List.mem_cons.mp member with rfl | further
        · exact .inr List.mem_cons_self
        · exact (ih further).imp_right (List.mem_cons_of_mem _)

theorem Sorted.set (sorted : Sorted fields) (key : String) (value : Value) :
    Sorted (set key value fields) := by
  induction fields with
  | nil => exact List.pairwise_singleton _ _
  | cons first fields ih =>
    obtain ⟨other, old⟩ := first
    obtain ⟨least, rest⟩ := List.pairwise_cons.mp sorted
    rw [Fields.set]
    split
    · rename_i same
      subst same
      exact List.pairwise_cons.mpr ⟨least, rest⟩
    · rename_i different
      split
      · rename_i below
        refine List.pairwise_cons.mpr ⟨?_, sorted⟩
        intro field member
        rcases List.mem_cons.mp member with rfl | further
        · exact below
        · exact lt_trans below (least field further)
      · rename_i notBelow
        refine List.pairwise_cons.mpr ⟨?_, ih rest⟩
        intro field member
        rcases mem_set member with rfl | further
        · exact lt_of_le_of_ne (not_lt.mp notBelow) (Ne.symm different)
        · exact least field further

theorem mem_of_get? (found : get? fields key = some value) : (key, value) ∈ fields := by
  obtain ⟨before, after, parts, -⟩ := List.lookup_eq_some_iff.mp found
  simp [parts]

theorem get?_eq_none (absent : ∀ field ∈ fields, field.1 ≠ key) : get? fields key = none := by
  cases found : get? fields key with
  | none => rfl
  | some value => exact absurd rfl (absent _ (mem_of_get? found))

theorem Sorted.get?_eq_some_iff (sorted : Sorted fields) :
    get? fields key = some value ↔ (key, value) ∈ fields := by
  refine ⟨mem_of_get?, ?_⟩
  intro member
  induction fields with
  | nil => cases member
  | cons first fields ih =>
    obtain ⟨least, rest⟩ := List.pairwise_cons.mp sorted
    obtain ⟨other, old⟩ := first
    rw [get?_cons]
    rcases List.mem_cons.mp member with same | further
    · cases same
      exact if_pos rfl
    · rw [if_neg (ne_of_gt (least _ further)), ih rest further]

theorem Sorted.ext (left : Sorted fields) (right : Sorted others)
    (same : ∀ key, get? fields key = get? others key) : fields = others := by
  have irrefl : Std.Irrefl fun left right : String × Value => left.1 < right.1 :=
    ⟨fun _ => lt_irrefl _⟩
  have antisymm : Std.Antisymm fun left right : String × Value => left.1 < right.1 :=
    ⟨fun _ _ below above => absurd above (lt_asymm below)⟩
  apply left.eq_of_mem_iff right
  rintro ⟨key, value⟩
  rw [← left.get?_eq_some_iff, ← right.get?_eq_some_iff, same]

end Fields

namespace Value
open Fields

variable {earlier later : Fields}

/-- A later value on top of an earlier one, or of none. -/
def overlay (lower : Option Value) (later : Value) : Value :=
  match lower with
  | some earlier => earlier.merge later
  | none => later

def overlay? (lower : Option Value) : Option Value → Option Value
  | some later => some (overlay lower later)
  | none => lower

/-- What a table holds; another value, or none, holds nothing. -/
def held : Option Value → Fields
  | some (.table _ fields) => fields
  | _ => []

theorem mergeFields_cons (earlier later : Fields) (key : String) (value : Value) :
    mergeFields earlier ((key, value) :: later) =
      mergeFields (Fields.set key (overlay (get? earlier key) value) earlier) later := by
  rw [mergeFields]
  cases get? earlier key <;> rfl

/-- Two tables merge key by key. -/
theorem get?_mergeFields (sorted : Sorted later) (earlier : Fields) (key : String) :
    get? (mergeFields earlier later) key = overlay? (get? earlier key) (get? later key) := by
  induction later generalizing earlier with
  | nil => rw [mergeFields]; rfl
  | cons first later ih =>
    obtain ⟨other, value⟩ := first
    obtain ⟨least, rest⟩ := List.pairwise_cons.mp sorted
    rw [mergeFields_cons, ih rest, get?_set, get?_cons]
    by_cases same : key = other
    · subst same
      have absent : get? later key = none :=
        get?_eq_none fun field member => ne_of_gt (least field member)
      rw [if_pos rfl, if_pos rfl, absent]
      rfl
    · rw [if_neg same, if_neg same]

theorem sorted_mergeFields (sorted : Sorted earlier) (later : Fields) :
    Sorted (mergeFields earlier later) := by
  induction later generalizing earlier with
  | nil => rwa [mergeFields]
  | cons first later ih =>
    rw [mergeFields_cons]
    exact ih (sorted.set _ _)

theorem mergeFields_nil (sorted : Sorted later) : mergeFields [] later = later := by
  apply (sorted_mergeFields .nil later).ext sorted
  intro key
  rw [get?_mergeFields sorted]
  cases get? later key <;> rfl

/-- A table replaces what is no table as if that held nothing. -/
theorem overlay_table (sorted : Sorted later) (lower : Option Value) (origin : Origin) :
    overlay lower (.table origin later) = .table origin (mergeFields (held lower) later) := by
  rcases lower with _ | _ | _ | _
  · rw [held, mergeFields_nil sorted]
    · rfl
    · simp
  · simp only [overlay, merge, held, mergeFields_nil sorted]
  · simp only [overlay, merge, held, mergeFields_nil sorted]
  · simp only [overlay, merge, held]

/-- Every table in it has its fields in order. -/
inductive Ordered : Value → Prop
  | scalar {origin : Origin} {scalar : Scalar} : Ordered (.scalar origin scalar)
  | list {origin : Origin} {items : List Value} (each : ∀ item ∈ items, Ordered item) :
      Ordered (.list origin items)
  | table {origin : Origin} {fields : Fields} (sorted : Sorted fields)
      (each : ∀ field ∈ fields, Ordered field.2) : Ordered (.table origin fields)

end Value

namespace Fields

variable {fields later : Fields} {key : String} {value : Value} {origin : Origin}

/-- The fields of a table that is in order all through. -/
def Ordered (fields : Fields) : Prop :=
  Sorted fields ∧ ∀ field ∈ fields, field.2.Ordered

theorem ordered_nil : Ordered [] :=
  ⟨.nil, by simp⟩

theorem ordered_singleton (ordered : value.Ordered) : Ordered [(key, value)] :=
  ⟨List.pairwise_singleton _ _, by simpa using ordered⟩

theorem Ordered.table (ordered : Ordered fields) : Value.Ordered (.table origin fields) :=
  .table ordered.1 ordered.2

theorem Ordered.get? (ordered : Ordered fields) (found : get? fields key = some value) :
    value.Ordered :=
  ordered.2 _ (mem_of_get? found)

theorem Ordered.set (ordered : Ordered fields) (given : value.Ordered) (key : String) :
    Ordered (set key value fields) := by
  refine ⟨ordered.1.set key value, ?_⟩
  intro field member
  rcases mem_set member with rfl | further
  · exact given
  · exact ordered.2 field further

end Fields

namespace Value
open Fields

variable {later : Value} {lower : Option Value} {origin : Origin}

theorem Ordered.fields {fields : Fields} (ordered : Ordered (.table origin fields)) :
    Fields.Ordered fields := by
  cases ordered with
  | table sorted each => exact ⟨sorted, each⟩

theorem ordered_held (ordered : ∀ value ∈ lower, Ordered value) : (held lower).Ordered := by
  rcases lower with _ | _ | _ | ⟨origin, fields⟩
  · exact ordered_nil
  · exact ordered_nil
  · exact ordered_nil
  · exact (ordered _ rfl).fields

theorem Ordered.overlay (above : Ordered later) (below : ∀ value ∈ lower, Ordered value) :
    Ordered (overlay lower later) := by
  induction above generalizing lower with
  | scalar => cases lower <;> exact .scalar
  | list each => cases lower <;> exact .list each
  | @table origin fields sorted each ih =>
    rw [overlay_table sorted]
    have ordered := ordered_held below
    generalize held lower = earlier at ordered
    clear sorted each
    -- Each field is put over what the fields before it left at its key.
    induction fields generalizing earlier with
    | nil =>
      rw [mergeFields]
      exact ordered.table
    | cons field fields rest =>
      rw [mergeFields_cons]
      apply rest
      · intro field member
        exact ih field (List.mem_cons_of_mem _ member)
      · apply ordered.set
        apply ih field List.mem_cons_self
        intro value found
        exact ordered.get? found

end Value

end Registrar.Config
