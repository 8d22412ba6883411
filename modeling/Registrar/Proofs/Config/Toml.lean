import Registrar.Config.Toml.Reader
import Registrar.Proofs.Config.Fields

/-! What is read from documents: a table, in which all fields are in order. -/
namespace Registrar.Config.Toml

variable {origin : Origin}

/-- Every value in it is in order. -/
inductive Item.Ordered : Item → Prop
  | value {value : Value} (ordered : value.Ordered) : Ordered (.value value)
  | table {kind : TableKind} {items : Items} (each : ∀ item ∈ items, Ordered item.2) :
      Ordered (.table kind items)
  | tables {elements : List Items} (each : ∀ element ∈ elements, ∀ item ∈ element, Ordered item.2) :
      Ordered (.tables elements)

def Items.Ordered (items : Items) : Prop :=
  ∀ item ∈ items, item.2.Ordered

namespace Items

variable {items : Items}

theorem ordered_nil : Items.Ordered [] := by
  simp [Items.Ordered]

theorem ordered_toFields (ordered : ∀ item ∈ items, (Item.toValue origin item.2).Ordered) :
    Fields.Ordered (toFields origin items) := by
  induction items with
  | nil => exact Fields.ordered_nil
  | cons item items ih =>
    obtain ⟨first, rest⟩ := List.forall_mem_cons.mp ordered
    rw [toFields]
    exact (ih rest).set first _

theorem ordered_toValues {elements : List Items}
    (ordered : ∀ element ∈ elements, ∀ item ∈ element, (Item.toValue origin item.2).Ordered) :
    ∀ value ∈ toValues origin elements, value.Ordered := by
  induction elements with
  | nil => simp [toValues]
  | cons element elements ih =>
    obtain ⟨first, rest⟩ := List.forall_mem_cons.mp ordered
    rw [toValues]
    exact List.forall_mem_cons.mpr ⟨(ordered_toFields first).table, ih rest⟩

end Items

theorem Item.Ordered.toValue {item : Item} (ordered : item.Ordered) (origin : Origin) :
    (Item.toValue origin item).Ordered := by
  induction ordered with
  | value ordered => rwa [Item.toValue]
  | table _ ih =>
    rw [Item.toValue]
    exact (Items.ordered_toFields ih).table
  | tables _ ih =>
    rw [Item.toValue]
    exact .list (Items.ordered_toValues ih)

namespace Items

variable {items changed : Items} {path : List String} {key : String}
  {change : TableKind → Items → Option Items}

theorem Ordered.toFields (ordered : Items.Ordered items) (origin : Origin) :
    Fields.Ordered (toFields origin items) :=
  ordered_toFields fun item member => (ordered item member).toValue origin

theorem Ordered.append {item : Item} (ordered : Items.Ordered items) (new : item.Ordered) :
    Items.Ordered (items ++ [(key, item)]) := by
  intro other member
  rcases List.mem_append.mp member with known | last
  · exact ordered other known
  · rwa [List.mem_singleton.mp last]

theorem Ordered.replace {item : Item} (ordered : Items.Ordered items) (new : item.Ordered) :
    Items.Ordered (replace key item items) := by
  intro other member
  obtain ⟨⟨name, old⟩, known, rfl⟩ := List.mem_map.mp member
  dsimp only
  split
  · exact new
  · exact ordered _ known

theorem Ordered.lookup {item : Item} (ordered : Items.Ordered items)
    (found : items.lookup key = some item) : item.Ordered := by
  obtain ⟨before, after, parts, -⟩ := List.lookup_eq_some_iff.mp found
  exact ordered (key, item) (by simp [parts])

/-- A change that keeps values in order keeps them so wherever it is made. -/
theorem Ordered.descend (keeps : ∀ kind items changed, Items.Ordered items →
      change kind items = some changed → Items.Ordered changed)
    {dotted : Bool} {kind : TableKind} (ordered : Items.Ordered items)
    (descended : descend dotted change path kind items = some changed) : Items.Ordered changed := by
  induction path generalizing kind items changed with
  | nil => exact keeps kind items changed ordered descended
  | cons key path ih =>
    rw [Items.descend] at descended
    split at descended
    · obtain ⟨inner, below, rfl⟩ := Option.map_eq_some_iff.mp descended
      exact ordered.append (.table (ih ordered_nil below))
    · cases descended
    · rename_i elements found
      obtain ⟨last, isLast, descended⟩ := Option.bind_eq_some_iff.mp descended
      obtain ⟨inner, below, rfl⟩ := Option.map_eq_some_iff.mp descended
      cases ordered.lookup found with
      | tables each =>
        apply ordered.replace (.tables ?_)
        intro element member
        rcases List.mem_append.mp member with known | new
        · exact each element (List.dropLast_subset _ known)
        · rw [List.mem_singleton.mp new]
          exact ih (each last (List.mem_of_getLast? isLast)) below
    · rename_i found
      split at descended
      · cases descended
      · obtain ⟨inner, below, rfl⟩ := Option.map_eq_some_iff.mp descended
        cases ordered.lookup found with
        | table each => exact ordered.replace (.table (ih each below))

theorem Ordered.insert {value : Value} (ordered : Items.Ordered items) (given : value.Ordered)
    (inserted : insert path key value items = some changed) : Items.Ordered changed := by
  refine ordered.descend ?_ inserted
  intro kind items changed ordered change
  split at change
  · cases change
  · split at change
    · cases change
    · cases change
      exact ordered.append (.value given)

theorem Ordered.openTable (ordered : Items.Ordered items)
    (opened : openTable path key items = some changed) : Items.Ordered changed := by
  refine ordered.descend ?_ opened
  intro kind items changed ordered change
  split at change
  · cases change
    exact ordered.append (.table (by simp))
  · rename_i found
    cases change
    cases ordered.lookup found with
    | table each => exact ordered.replace (.table each)
  · cases change

theorem Ordered.openElement (ordered : Items.Ordered items)
    (opened : openElement path key items = some changed) : Items.Ordered changed := by
  refine ordered.descend ?_ opened
  intro kind items changed ordered change
  split at change
  · cases change
    exact ordered.append (.tables (by simp))
  · rename_i found
    cases change
    cases ordered.lookup found with
    | tables each =>
      apply ordered.replace (.tables ?_)
      intro element member
      rcases List.mem_append.mp member with known | new
      · exact each element known
      · rw [List.mem_singleton.mp new]
        simp
  · cases change

end Items

theorem ordered_bareValue {text rest : List Char} {found : Value}
    (read : bareValue origin text = some (found, rest)) : found.Ordered := by
  have date (text : String) : (Value.table origin [(dateKey, .scalar origin (.text text))]).Ordered :=
    (Fields.ordered_singleton .scalar).table
  have bare {text : List Char} {found : Value} (read : bareValue? origin text = some found) :
      found.Ordered := by
    unfold bareValue? at read
    split at read
    · cases read
      exact .scalar
    · split at read
      · cases read
        exact .scalar
      · split at read
        · cases read
          exact date _
        · split at read <;> cases read <;> exact .scalar
  -- Whatever follows the text, it is read as a date with a time or by itself.
  unfold bareValue at read
  dsimp only at read
  split at read
  all_goals
    split at read
    · cases read
      exact date _
    · obtain ⟨value, plain, same⟩ := Option.map_eq_some_iff.mp read
      cases same
      exact bare plain

theorem ordered_of_readers (origin : Origin) (fuel : Nat) :
    (∀ depth text found rest, value origin fuel depth text = some (found, rest) → found.Ordered) ∧
    (∀ depth text found rest, items origin fuel depth text = some (found, rest) →
      ∀ item ∈ found, item.Ordered) ∧
    (∀ depth before text found rest, Items.Ordered before →
      fields origin fuel depth before text = some (found, rest) → Items.Ordered found) := by
  induction fuel with
  | zero => simp [value, items, fields]
  | succ fuel ih =>
    obtain ⟨ofValue, ofItems, ofFields⟩ := ih
    refine ⟨?_, ?_, ?_⟩
    · intro depth text found rest read
      rw [value.eq_def] at read
      simp only [Option.bind_eq_bind, Option.pure_def] at read
      split at read
      · obtain ⟨string, -, same⟩ := Option.map_eq_some_iff.mp read
        cases same
        exact .scalar
      · obtain ⟨string, -, same⟩ := Option.map_eq_some_iff.mp read
        cases same
        exact .scalar
      · split at read
        · cases read
        · obtain ⟨⟨items, left⟩, list, same⟩ := Option.map_eq_some_iff.mp read
          cases same
          exact .list (ofItems _ _ _ _ list)
      · split at read
        · cases read
        · split at read
          · cases read
            exact (Items.ordered_nil.toFields origin).table
          · obtain ⟨⟨items, left⟩, table, same⟩ := Option.bind_eq_some_iff.mp read
            cases same
            exact ((ofFields _ _ _ _ _ Items.ordered_nil table).toFields origin).table
      · exact ordered_bareValue read
    · intro depth text found rest read
      rw [items.eq_def] at read
      simp only [Option.bind_eq_bind, Option.pure_def] at read
      obtain ⟨text, -, read⟩ := Option.bind_eq_some_iff.mp read
      split at read
      · cases read
        simp
      · obtain ⟨⟨item, left⟩, first, read⟩ := Option.bind_eq_some_iff.mp read
        have ordered := ofValue _ _ _ _ first
        obtain ⟨next, -, read⟩ := Option.bind_eq_some_iff.mp read
        split at read
        · obtain ⟨⟨others, left⟩, further, same⟩ := Option.bind_eq_some_iff.mp read
          cases same
          exact List.forall_mem_cons.mpr ⟨ordered, ofItems _ _ _ _ further⟩
        · cases read
          simpa using ordered
        · cases read
    · intro depth before text found rest known read
      rw [fields.eq_def] at read
      simp only [Option.bind_eq_bind, Option.pure_def] at read
      obtain ⟨⟨path, left⟩, -, read⟩ := Option.bind_eq_some_iff.mp read
      dsimp only at read
      split at read
      · obtain ⟨⟨field, left⟩, first, read⟩ := Option.bind_eq_some_iff.mp read
        obtain ⟨set, inserted, read⟩ := Option.bind_eq_some_iff.mp read
        have ordered := known.insert (ofValue _ _ _ _ first) inserted
        dsimp only at read
        split at read
        · exact ofFields _ _ _ _ _ ordered read
        · cases read
          exact ordered
        · cases read
      · cases read

theorem ordered_of_expression {progress next : Progress} {text rest : List Char}
    (ordered : Items.Ordered progress.items)
    (read : expression origin progress text = some (next, rest)) : Items.Ordered next.items := by
  unfold expression at read
  simp only [Option.bind_eq_bind, Option.pure_def] at read
  split at read
  · cases read
    exact ordered
  · cases read
    exact ordered
  · obtain ⟨left, -, same⟩ := Option.bind_eq_some_iff.mp read
    cases same
    exact ordered
  · obtain ⟨⟨path, last, left⟩, -, read⟩ := Option.bind_eq_some_iff.mp read
    dsimp only at read
    split at read
    · obtain ⟨items, opened, read⟩ := Option.bind_eq_some_iff.mp read
      obtain ⟨left, -, same⟩ := Option.bind_eq_some_iff.mp read
      cases same
      exact ordered.openElement opened
    · cases read
  · obtain ⟨⟨path, last, left⟩, -, read⟩ := Option.bind_eq_some_iff.mp read
    obtain ⟨items, opened, read⟩ := Option.bind_eq_some_iff.mp read
    obtain ⟨left, -, same⟩ := Option.bind_eq_some_iff.mp read
    cases same
    exact ordered.openTable opened
  · obtain ⟨⟨path, left⟩, -, read⟩ := Option.bind_eq_some_iff.mp read
    dsimp only at read
    split at read
    · obtain ⟨⟨set, left⟩, first, read⟩ := Option.bind_eq_some_iff.mp read
      obtain ⟨items, changed, read⟩ := Option.bind_eq_some_iff.mp read
      obtain ⟨left, -, same⟩ := Option.bind_eq_some_iff.mp read
      cases same
      refine ordered.descend ?_ changed
      intro kind items changed known inserted
      exact known.insert ((ordered_of_readers origin _).1 _ _ _ _ first) inserted
    · cases read

theorem ordered_of_expressions {fuel : Nat} {progress next : Progress} {text : List Char}
    (ordered : Items.Ordered progress.items)
    (read : expressions origin fuel progress text = some next) : Items.Ordered next.items := by
  induction fuel generalizing progress text with
  | zero =>
    cases text with
    | nil =>
      cases read
      exact ordered
    | cons => cases read
  | succ fuel ih =>
    cases text with
    | nil =>
      cases read
      exact ordered
    | cons char text =>
      obtain ⟨⟨between, rest⟩, first, read⟩ := Option.bind_eq_some_iff.mp read
      exact ih (ordered_of_expression ordered first) read

/-- A document gives a table, and one that is in order. -/
theorem ordered_of_read {text : List Char} {layer : Value} (read : read origin text = some layer) :
    ∃ fields, layer = .table origin fields ∧ Fields.Ordered fields := by
  unfold Toml.read at read
  obtain ⟨lines, -, read⟩ := Option.bind_eq_some_iff.mp read
  obtain ⟨progress, done, same⟩ := Option.bind_eq_some_iff.mp read
  cases same
  exact ⟨_, rfl, (ordered_of_expressions Items.ordered_nil done).toFields origin⟩

end Registrar.Config.Toml
