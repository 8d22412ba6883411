import Registrar.Config.Settings
import Registrar.Proofs.Config.Fields

/-! Layers merged in a row. What a layer gives at a key as a plain value hides what the layers below
hold there, and a layer that gives nothing at a key hides nothing. -/
namespace Registrar.Config
open Fields

variable {value layer : Value} {value? lower lower' later later' : Option Value} {key : String}
  {path : List String} {layers below below' above : List Value}

namespace Value

/-- A table, or nothing. -/
def Tabular : Option Value → Prop
  | none | some (.table ..) => True
  | _ => False

instance : DecidablePred Tabular
  | none | some (.table ..) => isTrue trivial
  | some (.scalar ..) | some (.list ..) => isFalse id

/-- What lies in a value at the end of a path of keys. -/
def at? : List String → Option Value → Option Value
  | [], value => value
  | key :: path, value => at? path (get? (held value) key)

/-- All that lies on the way to the end of the path are tables, as far as there is anything. -/
def Open : List String → Option Value → Prop
  | [], _ => True
  | key :: path, value => Tabular value ∧ Open path (get? (held value) key)

instance decidableOpen : (path : List String) → DecidablePred (Open path)
  | [], _ => isTrue trivial
  | key :: path, value =>
    have := decidableOpen path (get? (held value) key)
    inferInstanceAs (Decidable (_ ∧ _))

/-- A value gives something other than a table at the path, or already on the way to it. -/
inductive Covers : List String → Value → Prop
  | plain {path : List String} {value : Value}
      (noTable : ∀ origin fields, value ≠ .table origin fields) : Covers path value
  | within {key : String} {path : List String} {origin : Origin} {fields : Fields} {value : Value}
      (found : get? fields key = some value) (covers : Covers path value) :
      Covers (key :: path) (.table origin fields)

/-- Two values that may differ in what they hold at the path, and in nothing else. -/
inductive Apart : List String → Option Value → Option Value → Prop
  | here {lower lower' : Option Value} : Apart [] lower lower'
  | same {path : List String} {value : Option Value} : Apart path value value
  | within {key : String} {path : List String} {lower lower' : Option Value}
      (tabular : Tabular lower) (tabular' : Tabular lower')
      (others : ∀ other, other ≠ key → get? (held lower) other = get? (held lower') other)
      (inner : Apart path (get? (held lower) key) (get? (held lower') key)) :
      Apart (key :: path) lower lower'

/-- Two values that look alike to a table put on top of them, but for the path. -/
def Alike : List String → Option Value → Option Value → Prop
  | [], _, _ => True
  | key :: path, lower, lower' =>
    (∀ other, other ≠ key → get? (held lower) other = get? (held lower') other) ∧
      Alike path (get? (held lower) key) (get? (held lower') key)

theorem Alike.refl (path : List String) (value : Option Value) : Alike path value value := by
  induction path generalizing value with
  | nil => trivial
  | cons key path ih => exact ⟨fun _ _ => rfl, ih _⟩

theorem at?_none (path : List String) : at? path none = none := by
  induction path with
  | nil => rfl
  | cons key path ih => exact ih

theorem open_none (path : List String) : Open path none := by
  induction path with
  | nil => trivial
  | cons key path ih => exact ⟨trivial, ih⟩

theorem held_of_not_tabular (plain : ¬ Tabular value?) : held value? = [] := by
  rcases value? with _ | _ | _ | _
  · exact absurd trivial plain
  · rfl
  · rfl
  · exact absurd trivial plain

theorem overlay_of_plain (noTable : ∀ origin fields, value ≠ .table origin fields)
    (lower : Option Value) : overlay lower value = value := by
  cases value with
  | table origin fields => exact absurd rfl (noTable origin fields)
  | list | scalar => cases lower <;> rfl

theorem get?_held_overlay? (tabular : Tabular later) (ordered : ∀ value ∈ later, Ordered value)
    (lower : Option Value) (key : String) :
    get? (held (overlay? lower later)) key =
      overlay? (get? (held lower) key) (get? (held later) key) := by
  rcases later with _ | _ | _ | ⟨origin, fields⟩
  · rfl
  · cases tabular
  · cases tabular
  · have sorted := (ordered _ rfl).fields.1
    rw [overlay?, overlay_table sorted]
    exact get?_mergeFields sorted _ key

theorem Ordered.some (ordered : Ordered value) : ∀ found ∈ some value, Ordered found := by
  rintro _ ⟨⟩
  exact ordered

theorem ordered_get? (ordered : ∀ value ∈ lower, Ordered value) (key : String) :
    ∀ value ∈ get? (held lower) key, Ordered value := by
  intro value found
  exact (ordered_held ordered).get? found

theorem overlay?_of_not_tabular (plain : ¬ Tabular later) (lower : Option Value) :
    overlay? lower later = later := by
  rcases later with _ | _ | _ | _
  · exact absurd trivial plain
  · exact congrArg some (overlay_of_plain (by simp) lower)
  · exact congrArg some (overlay_of_plain (by simp) lower)
  · exact absurd trivial plain

theorem Apart.split (apart : Apart (key :: path) later later') :
    later = later' ∧ ¬ Tabular later ∨ Tabular later ∧ Tabular later' ∧
      (∀ other, other ≠ key → get? (held later) other = get? (held later') other) ∧
      Apart path (get? (held later) key) (get? (held later') key) := by
  cases apart with
  | same =>
    by_cases tabular : Tabular later
    · exact .inr ⟨tabular, tabular, fun _ _ => rfl, .same⟩
    · exact .inl ⟨rfl, tabular⟩
  | within tabular tabular' others inner => exact .inr ⟨tabular, tabular', others, inner⟩

/-- Values that look alike still do under layers that are apart. -/
theorem Alike.overlay? (alike : Alike path lower lower') (apart : Apart path later later')
    (ordered : ∀ value ∈ later, Ordered value) (ordered' : ∀ value ∈ later', Ordered value) :
    Alike path (overlay? lower later) (overlay? lower' later') := by
  induction path generalizing lower lower' later later' with
  | nil => trivial
  | cons key path ih =>
    rcases apart.split with ⟨rfl, plain⟩ | ⟨tabular, tabular', others, inner⟩
    · rw [overlay?_of_not_tabular plain, overlay?_of_not_tabular plain]
      exact .refl _ _
    · constructor
      · intro other different
        rw [get?_held_overlay? tabular ordered, get?_held_overlay? tabular' ordered',
          alike.1 other different, others other different]
      · rw [get?_held_overlay? tabular ordered, get?_held_overlay? tabular' ordered']
        exact ih alike.2 inner (ordered_get? ordered key) (ordered_get? ordered' key)

/-- Along tables, what lies at the end of a path is put over what lay there. -/
theorem at?_overlay? (opened : Open path later) (ordered : ∀ value ∈ later, Ordered value)
    (lower : Option Value) :
    at? path (overlay? lower later) = overlay? (at? path lower) (at? path later) := by
  induction path generalizing lower later with
  | nil => rfl
  | cons key path ih =>
    rw [at?, get?_held_overlay? opened.1 ordered, ih opened.2 (ordered_get? ordered key)]
    rfl

/-- Where something else than a table is on the way, it hides what lay at the end of the path. -/
theorem at?_overlay?_of_not_open (barred : ¬ Open path later)
    (ordered : ∀ value ∈ later, Ordered value) (lower : Option Value) :
    at? path (overlay? lower later) = none := by
  induction path generalizing lower later with
  | nil => exact absurd trivial barred
  | cons key path ih =>
    by_cases tabular : Tabular later
    · rw [at?, get?_held_overlay? tabular ordered]
      exact ih (fun opened => barred ⟨tabular, opened⟩) (ordered_get? ordered key) _
    · rw [overlay?_of_not_tabular tabular, at?, held_of_not_tabular tabular]
      exact at?_none path

/-- A layer that covers the path gives the same on top of values that look alike but for it. -/
theorem Covers.overlay_eq (covers : Covers path layer) (ordered : Ordered layer)
    (alike : Alike path lower lower') (below : ∀ value ∈ lower, Ordered value)
    (below' : ∀ value ∈ lower', Ordered value) : overlay lower layer = overlay lower' layer := by
  induction covers generalizing lower lower' with
  | plain noTable => rw [overlay_of_plain noTable, overlay_of_plain noTable]
  | @within key path origin fields value found covers ih =>
    have sorted := ordered.fields.1
    rw [overlay_table sorted, overlay_table sorted, table.injEq]
    refine ⟨rfl, (sorted_mergeFields (ordered_held below).1 _).ext
      (sorted_mergeFields (ordered_held below').1 _) ?_⟩
    intro other
    rw [get?_mergeFields sorted, get?_mergeFields sorted]
    by_cases here : other = key
    · subst here
      rw [found, Value.overlay?, Value.overlay?, ih (ordered.fields.get? found) alike.2
        (ordered_get? below other) (ordered_get? below' other)]
    · rw [alike.1 other here]

end Value

open Value

theorem ordered_foldl {start : Value} (ordered : Ordered start)
    (each : ∀ layer ∈ layers, Ordered layer) : Ordered (layers.foldl merge start) := by
  induction layers generalizing start with
  | nil => exact ordered
  | cons layer layers ih =>
    obtain ⟨first, rest⟩ := List.forall_mem_cons.mp each
    exact ih (first.overlay ordered.some) rest

theorem ordered_merged (each : ∀ layer ∈ layers, Ordered layer) : Ordered (merged layers) :=
  ordered_foldl ordered_nil.table each

/-- Layers that differ at a path alone merge to what looks alike but for it. -/
theorem alike_foldl {start start' : Value} (alike : Alike path (some start) (some start'))
    (apart : List.Forall₂ (fun layer layer' => Apart path (some layer) (some layer')) below below')
    (ordered : ∀ layer ∈ below, Ordered layer) (ordered' : ∀ layer ∈ below', Ordered layer) :
    Alike path (some (below.foldl merge start)) (some (below'.foldl merge start')) := by
  induction apart generalizing start start' with
  | nil => exact alike
  | cons first _ ih =>
    obtain ⟨here, rest⟩ := List.forall_mem_cons.mp ordered
    obtain ⟨here', rest'⟩ := List.forall_mem_cons.mp ordered'
    exact ih (alike.overlay? first here.some here'.some) rest rest'

/-- **A plain value hides what lies below it.** The layers below one that covers a path may differ at
the path: all are merged to the same. -/
theorem merged_of_covered (covers : Covers path layer)
    (apart : List.Forall₂ (fun layer layer' => Apart path (some layer) (some layer')) below below')
    (ordered : ∀ other ∈ below ++ layer :: above, Ordered other)
    (ordered' : ∀ other ∈ below' ++ layer :: above, Ordered other) :
    merged (below ++ layer :: above) = merged (below' ++ layer :: above) := by
  obtain ⟨under, rest⟩ := List.forall_mem_append.mp ordered
  obtain ⟨under', -⟩ := List.forall_mem_append.mp ordered'
  have alike := alike_foldl (.refl path (some (.table .defaults []))) apart under under'
  have same := covers.overlay_eq (rest layer List.mem_cons_self) alike (ordered_merged under).some
    (ordered_merged under').some
  simp only [merged, List.foldl_append, List.foldl_cons]
  exact congrArg (above.foldl merge) same

/-- The value at a path in the first of the layers, from the strongest down, that gives one. -/
def highest? (path : List String) (downward : List Value) : Option Value :=
  downward.findSome? fun layer => at? path (some layer)

/-- The layers, from the strongest down, as far as nothing but tables is on the way to the path. -/
def standing (path : List String) (downward : List Value) : List Value :=
  downward.takeWhile fun layer => decide (Open path (some layer))

theorem overlay_eq_plain_iff {found : Value} (noTable : ∀ origin fields, found ≠ .table origin fields) :
    overlay lower value = found ↔ value = found := by
  constructor
  · rintro rfl
    cases value with
    | scalar | list => cases lower <;> rfl
    | table origin fields =>
      rcases lower with _ | _ | _ | _
      · rfl
      · rfl
      · rfl
      · exact absurd rfl (noTable _ _)
  · rintro rfl
    exact overlay_of_plain noTable lower

/-- Where no table is found at a path, it is the highest of the layers that decides what is. -/
theorem at?_merged_iff {downward : List Value} {found : Option Value}
    (ordered : ∀ layer ∈ downward, Ordered layer)
    (noTable : ∀ origin fields, found ≠ some (.table origin fields)) :
    at? (key :: path) (some (merged downward.reverse)) = found ↔
      highest? (key :: path) (standing (key :: path) downward) = found := by
  induction downward with
  | nil =>
    rw [List.reverse_nil, merged, List.foldl_nil, at?, held, get?, List.lookup_nil, at?_none]
    rfl
  | cons layer below ih =>
    obtain ⟨first, rest⟩ := List.forall_mem_cons.mp ordered
    have step : some (merged (layer :: below).reverse) =
        overlay? (some (merged below.reverse)) (some layer) := by
      rw [List.reverse_cons, merged, List.foldl_append]
      rfl
    rw [step, standing]
    by_cases opened : Open (key :: path) (some layer)
    · rw [at?_overlay? opened first.some, List.takeWhile_cons_of_pos (by simpa using opened), highest?,
        List.findSome?_cons]
      cases at? (key :: path) (some layer) with
      | none => exact ih rest
      | some value =>
        cases found with
        | none => simp [overlay?]
        | some found =>
          rw [overlay?, Option.some.injEq, Option.some.injEq]
          exact overlay_eq_plain_iff fun origin fields same => noTable origin fields (same ▸ rfl)
    · rw [at?_overlay?_of_not_open opened first.some,
        List.takeWhile_cons_of_neg (by simpa using opened)]
      rfl

end Registrar.Config
