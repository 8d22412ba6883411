import Registrar.Config.Environment
import Registrar.Proofs.Config.Fields

/-! What is read from variables: a table, in which all fields are in order. -/
namespace Registrar.Config.Environment

theorem ordered_of_readers (depth : Nat) :
    (∀ text found rest, value depth text = some (found, rest) → found.Ordered) ∧
    (∀ text found rest, items depth text = some (found, rest) → ∀ item ∈ found, item.Ordered) ∧
    (∀ text found rest, fields depth text = some (found, rest) → Fields.Ordered found) := by
  induction depth with
  | zero => simp [value, items, fields]
  | succ depth ih =>
    obtain ⟨ofValue, ofItems, ofFields⟩ := ih
    refine ⟨?_, ?_, ?_⟩
    · intro text found rest read
      simp only [value, Option.bind_eq_bind, Option.pure_def] at read
      split at read <;> try split at read
      all_goals
        obtain ⟨⟨inner, left⟩, inside, same⟩ := Option.bind_eq_some_iff.mp read
        cases same
      · cases inside
        exact .scalar
      · cases inside
        exact .scalar
      · obtain ⟨⟨fields, left⟩, table, same⟩ := Option.map_eq_some_iff.mp inside
        cases same
        exact (ofFields _ _ _ table).table
      · obtain ⟨⟨items, left⟩, list, same⟩ := Option.map_eq_some_iff.mp inside
        cases same
        exact .list (ofItems _ _ _ list)
      · obtain ⟨quoted, -, same⟩ := Option.map_eq_some_iff.mp inside
        cases same
        exact .scalar
      · cases inside
        exact .scalar
      · cases inside
      · cases inside
        exact .scalar
    · intro text found rest read
      rw [items.eq_def] at read
      simp only [Option.bind_eq_bind, Option.pure_def] at read
      split at read
      · cases read
      · cases read
        simp
      · rename_i same _
        cases same
        obtain ⟨⟨item, left⟩, first, read⟩ := Option.bind_eq_some_iff.mp read
        have ordered := ofValue _ _ _ first
        dsimp only at read
        split at read
        · obtain ⟨⟨others, left⟩, further, same⟩ := Option.bind_eq_some_iff.mp read
          cases same
          exact List.forall_mem_cons.mpr ⟨ordered, ofItems _ _ _ further⟩
        · cases read
          simpa using ordered
        · cases read
    · intro text found rest read
      rw [fields.eq_def] at read
      simp only [Option.bind_eq_bind, Option.pure_def] at read
      split at read
      · cases read
      · cases read
        exact Fields.ordered_nil
      · rename_i same _
        cases same
        obtain ⟨⟨name, left⟩, -, read⟩ := Option.bind_eq_some_iff.mp read
        dsimp only at read
        split at read
        · obtain ⟨⟨field, left⟩, first, read⟩ := Option.bind_eq_some_iff.mp read
          have ordered := ofValue _ _ _ first
          dsimp only at read
          split at read
          · obtain ⟨⟨others, left⟩, further, same⟩ := Option.bind_eq_some_iff.mp read
            have rest := ofFields _ _ _ further
            cases same
            split
            · exact rest
            · exact rest.set ordered name
          · cases read
            exact Fields.ordered_singleton ordered
          · cases read
        · cases read

theorem ordered_read (text : String) : (read text).Ordered := by
  rw [read]
  split
  · rename_i value found
    exact (ordered_of_readers _).1 _ _ _ found
  · exact .scalar

theorem ordered_nested {origin : Origin} {value : Value} (ordered : value.Ordered)
    (keys : List String) : (Value.nested origin value keys).Ordered := by
  induction keys with
  | nil => exact ordered
  | cons key keys ih =>
    rw [Value.nested]
    exact (Fields.ordered_singleton ih).table

theorem parts_ne_nil (text : List Char) : parts text ≠ [] := by
  cases text with
  | nil => simp [parts]
  | cons char text =>
    rw [parts]
    split
    · simp
    · split <;> simp

theorem ne_nil_of_keys? {name : String} {keys : List String} (read : keys? name = some keys) :
    keys ≠ [] := by
  simp only [keys?, Option.bind_eq_bind, Option.bind_eq_some_iff] at read
  obtain ⟨rest, -, read⟩ := read
  split at read
  · cases read
  · cases read
    rw [ne_eq, List.map_eq_nil_iff]
    exact parts_ne_nil _

/-- The variables give a table, and one that is in order. -/
theorem layer_eq_table (environment : List (String × String)) :
    ∃ fields, layer environment = .table .environment fields ∧ Fields.Ordered fields := by
  have ordered := Fields.ordered_nil
  rw [layer]
  generalize ([] : Fields) = fields at ordered ⊢
  induction environment generalizing fields with
  | nil => exact ⟨fields, rfl, ordered⟩
  | cons first others ih =>
    obtain ⟨name, text⟩ := first
    rw [List.foldl_cons]
    cases named : keys? name with
    | none =>
      simp only [named]
      exact ih fields ordered
    | some keys =>
      obtain ⟨key, keys, rfl⟩ := List.exists_cons_of_ne_nil (ne_nil_of_keys? named)
      have set : (Value.nested .environment (read text) (key :: keys)).Ordered :=
        ordered_nested (ordered_read text) (key :: keys)
      have below : ∀ value ∈ some (Value.table .environment fields), value.Ordered := by
        simpa using ordered.table
      have merged := set.overlay below
      simp only [Value.overlay, Value.nested, Value.merge] at merged
      simp only [named, Value.nested, Value.merge]
      exact ih _ merged.fields

end Registrar.Config.Environment
