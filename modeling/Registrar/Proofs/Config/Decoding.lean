import Mathlib.Data.List.Nodup
import Registrar.Config.Settings
import Registrar.Proofs.Logged

/-! Settings that were decoded: each is the text of the value that was given for it. -/
namespace Registrar.Config

/-- What a setting with this text was read from, if it was given at all. -/
inductive Spells : Option Value → Option String → Prop
  | absent : Spells none none
  | scalar {origin : Origin} {scalar : Scalar} :
      Spells (some (.scalar origin scalar)) (some scalar.plain)

theorem Spells.ne_table {value : Option Value} {text : Option String} (spells : Spells value text)
    (origin : Origin) (fields : Fields) : value ≠ some (.table origin fields) := by
  rintro rfl
  cases spells

namespace Decode

variable {path : List String} {value : Value} {overrides replaced : Overrides} {fields : Fields}

theorem spells_of_text {found : String} (decoded : text path value = .ok found) :
    Spells (some value) (some found) := by
  cases value with
  | scalar origin scalar =>
    cases decoded
    exact .scalar
  | list | table => cases decoded

theorem spells_of_choice {α : Type} {kind : String} {choices : List α} {name : α → String}
    {chosen : α} (decoded : choice kind choices name path value = .ok chosen) :
    Spells (some value) (some (name chosen)) := by
  unfold choice at decoded
  split at decoded
  · split at decoded
    · rename_i found _ known
      cases decoded
      have same := List.find?_some known
      rw [beq_iff_eq] at same
      rw [same]
      exact .scalar
    · cases decoded
  · split at decoded <;> cases decoded
  · cases decoded
  · cases decoded

/-- A field of the vocabulary is replaced by the text it was given, and no other is. -/
theorem replace_ok {key : VocabularyKey}
    (done : replace overrides path value key = .ok replaced) :
    Spells (some value) (key.text? replaced) ∧
      ∀ other, other ≠ key → other.text? replaced = other.text? overrides := by
  cases key with
  | headerStyle =>
    obtain ⟨style, decoded, same⟩ := bind_eq_ok_iff.mp done
    cases same
    refine ⟨spells_of_choice decoded, ?_⟩
    intro other different
    cases other <;> first | rfl | exact absurd rfl different
  | _ =>
    obtain ⟨found, decoded, same⟩ := bind_eq_ok_iff.mp done
    cases same
    refine ⟨spells_of_text decoded, ?_⟩
    intro other different
    cases other <;> first | rfl | exact absurd rfl different

/-- Replacements in a row, at most one of each field. -/
theorem spells_of_replacements {α : Type} (key : α → VocabularyKey) (given : α → Option Value)
    (pathOf : α → List String) {items : List α}
    (different : items.Pairwise fun first second => key first ≠ key second)
    (done : items.foldlM (fun replaced item =>
      match given item with
      | some value => replace replaced (pathOf item) value (key item)
      | none => .ok replaced) overrides = .ok replaced) (field : VocabularyKey) :
    ((∀ item ∈ items, key item ≠ field) → field.text? replaced = field.text? overrides) ∧
      ∀ item ∈ items, key item = field → field.text? overrides = none →
        Spells (given item) (field.text? replaced) := by
  induction items generalizing overrides with
  | nil =>
    cases done
    simp
  | cons first items ih =>
    obtain ⟨apart, different⟩ := List.pairwise_cons.mp different
    rw [List.foldlM_cons] at done
    obtain ⟨between, step, done⟩ := bind_eq_ok_iff.mp done
    obtain ⟨untouched, later⟩ := ih different done
    have kept (other : key first ≠ field) : field.text? between = field.text? overrides := by
      split at step
      · exact (replace_ok step).2 field (Ne.symm other)
      · cases step
        rfl
    constructor
    · intro others
      obtain ⟨other, others⟩ := List.forall_mem_cons.mp others
      rw [untouched others, kept other]
    · intro item member here fresh
      rcases List.mem_cons.mp member with rfl | further
      · rw [untouched (fun other among => here ▸ Ne.symm (apart other among))]
        cases value : given item with
        | some value =>
          simp only [value] at step
          exact here ▸ (replace_ok step).1
        | none =>
          simp only [value] at step
          cases step
          rw [fresh]
          exact .absent
      · exact later item further here ((kept (here ▸ apart item further)).trans fresh)

theorem text?_empty (key : VocabularyKey) : key.text? {} = none := by
  cases key <;> rfl

/-- The place of a field in a list of replacements. -/
def position (key : VocabularyKey) : Nat :=
  VocabularyKey.all.idxOf key

theorem spells_of_table {origin : Origin}
    (decoded : Decode.overrides path (.table origin fields) = .ok overrides) (key : VocabularyKey) :
    Spells (Fields.get? fields key.name) (key.text? overrides) := by
  obtain ⟨-, set⟩ := spells_of_replacements id (fun key => Fields.get? fields key.name)
    (fun key => path ++ [key.name]) VocabularyKey.byName_nodup decoded key
  exact set key (VocabularyKey.mem_byName key) rfl (text?_empty key)

theorem spells_of_list {origin : Origin} {items : List Value}
    (decoded : Decode.overrides path (.list origin items) = .ok overrides) (key : VocabularyKey) :
    Spells items[position key]? (key.text? overrides) := by
  have distinct : VocabularyKey.all.Nodup := by decide
  have different : (VocabularyKey.all.zip items).zipIdx.Pairwise
      fun first second => first.1.1 ≠ second.1.1 := by
    rw [List.pairwise_iff_getElem]
    intro first second _ _ below same
    simp only [List.getElem_zipIdx, List.getElem_zip] at same
    exact absurd (distinct.getElem_inj_iff.mp same) (Nat.ne_of_lt below)
  obtain ⟨untouched, set⟩ := spells_of_replacements
    (fun item : (VocabularyKey × Value) × Nat => item.1.1) (fun item => some item.1.2)
    (fun item => path ++ [toString item.2]) different decoded key
  have placed : VocabularyKey.all[position key]? = some key :=
    List.getElem?_idxOf (VocabularyKey.mem_all key)
  have member {value : Value} : ((key, value), position key) ∈ (VocabularyKey.all.zip items).zipIdx ↔
      items[position key]? = some value := by
    rw [List.mem_zipIdx_iff_getElem?, List.getElem?_zip_eq_some]
    exact and_iff_right placed
  cases given : items[position key]? with
  | some value => exact set _ (member.mpr given) rfl (text?_empty key)
  | none =>
    rw [untouched, text?_empty]
    · exact .absent
    · rintro ⟨⟨other, value⟩, index⟩ among rfl
      obtain ⟨named, found⟩ := List.getElem?_zip_eq_some.mp (List.mem_zipIdx_iff_getElem?.mp among)
      obtain ⟨inside, same⟩ := List.getElem?_eq_some_iff.mp named
      have here := distinct.idxOf_getElem index inside
      rw [same] at here
      rw [position, here, found] at given
      cases given

theorem decoded_of_field? {α : Type} {decode : List String → Value → Except Fault α} {key : String}
    {found : Option α} (given : Fields.get? fields key = some value)
    (decoded : field? decode fields key = .ok found) :
    ∃ result, found = some result ∧ decode [key] value = .ok result := by
  rw [field?, given] at decoded
  cases result : decode [key] value with
  | error fault => simp [result] at decoded
  | ok inner =>
    simp only [result, Functor.map, Except.map, Except.ok.injEq] at decoded
    exact ⟨inner, decoded.symm, rfl⟩

/-- Each setting is spelled by what was given for it, and the vocabulary is decoded further. -/
theorem settings_ok {settings : Settings} (decoded : Decode.settings fields = .ok settings) :
    Spells (Fields.get? fields libNameKey) settings.libName ∧
    (∀ value, Fields.get? fields profileKey = some value →
      Spells (some value) (some settings.profile.name)) ∧
    (∀ value, Fields.get? fields sourceDirKey = some value →
      Spells (some value) (some settings.sourceDir)) ∧
    ∀ value, Fields.get? fields vocabularyKey = some value →
      Decode.overrides [vocabularyKey] value = .ok settings.overrides := by
  simp only [Decode.settings, bind_eq_ok_iff] at decoded
  obtain ⟨libName, first, profile, second, sourceDir, third, overrides, fourth, same⟩ := decoded
  cases same
  refine ⟨?_, ?_, ?_, ?_⟩
  · cases given : Fields.get? fields libNameKey with
    | none =>
      rw [field?, given] at first
      cases first
      exact .absent
    | some value =>
      obtain ⟨found, rfl, spelled⟩ := decoded_of_field? given first
      exact spells_of_text spelled
  · intro value given
    obtain ⟨found, rfl, spelled⟩ := decoded_of_field? given second
    exact spells_of_choice spelled
  · intro value given
    obtain ⟨found, rfl, spelled⟩ := decoded_of_field? given third
    exact spells_of_text spelled
  · intro value given
    obtain ⟨found, rfl, done⟩ := decoded_of_field? given fourth
    exact done

end Decode

end Registrar.Config
