import Mathlib.Data.List.Forall2
import Registrar.Event

/-! Steps in a row: when they all succeed, and which of them fails first. -/
namespace Registrar

variable {ε α β : Type}

theorem bind_eq_ok_iff {first : Except ε α} {next : α → Except ε β} {value : β} :
    (first >>= next) = .ok value ↔ ∃ between, first = .ok between ∧ next between = .ok value := by
  cases first <;> simp [bind, Except.bind]

theorem bind_eq_error_iff {first : Except ε α} {next : α → Except ε β} {error : ε} :
    (first >>= next) = .error error ↔
      first = .error error ∨ ∃ between, first = .ok between ∧ next between = .error error := by
  cases first <;> simp [bind, Except.bind]

theorem exists_of_forall₂ {related : α → β → Prop} {items : List α} {values : List β} {item : α}
    (pairs : List.Forall₂ related items values) (member : item ∈ items) :
    ∃ value ∈ values, related item value := by
  induction pairs with
  | nil => cases member
  | cons first _ ih =>
    rcases List.mem_cons.mp member with rfl | member
    · exact ⟨_, List.mem_cons_self, first⟩
    · obtain ⟨value, inside, relates⟩ := ih member
      exact ⟨value, List.mem_cons_of_mem _ inside, relates⟩

namespace Logged

theorem bind_events {first : Logged ε α} {next : α → Logged ε β} {value : α}
    (done : first.result = .ok value) : (first >>= next).events = first.events ++ (next value).events := by
  simp only [bind, Logged.bind, done]

theorem forEach_ok_iff {work : α → Logged ε β} {items : List α} {values : List β} :
    (forEach work items).result = .ok values ↔
      List.Forall₂ (fun item value => (work item).result = .ok value) items values := by
  induction items generalizing values with
  | nil =>
    rw [forEach, pure_result, Except.ok.injEq, List.forall₂_nil_left_iff]
    exact eq_comm
  | cons item items ih =>
    simp only [forEach, bind_result, bind_eq_ok_iff, pure_result, ih, Except.ok.injEq]
    constructor
    · rintro ⟨value, first, values, rest, rfl⟩
      exact .cons first rest
    · rintro ⟨⟩
      rename_i first rest
      exact ⟨_, first, _, rest, rfl⟩

/-- Work on a list fails with the failure of the first item that fails. -/
theorem forEach_error_iff {work : α → Logged ε β} {items : List α} {error : ε} :
    (forEach work items).result = .error error ↔
      ∃ done item left, items = done ++ item :: left ∧
        (∀ earlier ∈ done, ∃ value, (work earlier).result = .ok value) ∧
        (work item).result = .error error := by
  induction items with
  | nil => simp [forEach]
  | cons item items ih =>
    simp only [forEach, bind_result, bind_eq_error_iff, pure_result, ih, reduceCtorEq, and_false,
      exists_false, or_false]
    constructor
    · rintro (failed | ⟨value, first, done, next, left, rfl, succeeded, failed⟩)
      · exact ⟨[], item, items, rfl, by simp, failed⟩
      · refine ⟨item :: done, next, left, rfl, ?_, failed⟩
        rintro earlier (_ | ⟨_, member⟩)
        · exact ⟨value, first⟩
        · exact succeeded earlier member
    · rintro ⟨_ | ⟨head, done⟩, next, left, parts, succeeded, failed⟩
      · cases parts
        exact .inl failed
      · cases parts
        obtain ⟨value, first⟩ := succeeded item List.mem_cons_self
        refine .inr ⟨value, first, done, next, left, rfl, ?_, failed⟩
        exact fun earlier member => succeeded earlier (List.mem_cons_of_mem _ member)

/-- Work on a list that succeeds tells what it tells on each item, one after the other. -/
theorem forEach_events {work : α → Logged ε β} {items : List α} {values : List β}
    (done : (forEach work items).result = .ok values) :
    (forEach work items).events = items.flatMap fun item => (work item).events := by
  induction items generalizing values with
  | nil => rfl
  | cons item items ih =>
    obtain ⟨⟩ | ⟨first, rest⟩ := forEach_ok_iff.mp done
    have rest := forEach_ok_iff.mpr rest
    rw [forEach, bind_events first, bind_events rest, pure_events, List.append_nil, ih rest,
      List.flatMap_cons]

end Logged

end Registrar
