import Registrar.Text.Blank

/-! What trimming keeps, said without how it is computed. -/
namespace Registrar.Text

/-- `kept` is `text` without the characters of a class at both ends. -/
structure Strips (drops : Char → Bool) (text kept : List Char) : Prop where
  around : ∃ front back, text = front ++ kept ++ back ∧
    (∀ char ∈ front, drops char = true) ∧ ∀ char ∈ back, drops char = true
  first : ∀ char ∈ kept.head?, drops char = false
  last : ∀ char ∈ kept.getLast?, drops char = false

theorem dropWhile_append_of_all {drops : Char → Bool} {front : List Char} (rest : List Char)
    (all : ∀ char ∈ front, drops char = true) :
    (front ++ rest).dropWhile drops = rest.dropWhile drops := by
  induction front with
  | nil => rfl
  | cons char front ih =>
    simp only [List.mem_cons, forall_eq_or_imp] at all
    rw [List.cons_append, List.dropWhile_cons_of_pos all.1, ih all.2]

theorem dropWhile_of_head {drops : Char → Bool} {text : List Char}
    (first : ∀ char ∈ text.head?, drops char = false) : text.dropWhile drops = text := by
  cases text with
  | nil => rfl
  | cons char text =>
    have keeps := first char (by simp)
    rw [List.dropWhile_cons_of_neg (by simp [keeps])]

theorem trimWith_of_strips {drops : Char → Bool} {text kept : List Char}
    (strips : Strips drops text kept) : trimWith drops text = kept := by
  obtain ⟨⟨front, back, rfl, fronts, backs⟩, first, last⟩ := strips
  have reversed : ∀ char ∈ back.reverse, drops char = true := by simpa using backs
  rw [trimWith, List.append_assoc, dropWhile_append_of_all _ fronts]
  cases kept with
  | nil =>
    have none : back.dropWhile drops = [] := by
      rw [← List.append_nil back, dropWhile_append_of_all [] backs, List.dropWhile_nil]
    simp [none]
  | cons char kept =>
    have leading : ∀ other ∈ (char :: kept ++ back).head?, drops other = false := by
      simpa using first
    have trailing : ∀ other ∈ (char :: kept).reverse.head?, drops other = false := by
      rw [List.head?_reverse]
      exact last
    rw [dropWhile_of_head leading, List.reverse_append, dropWhile_append_of_all _ reversed,
      dropWhile_of_head trailing, List.reverse_reverse]

theorem strips_trimWith (drops : Char → Bool) (text : List Char) :
    Strips drops text (trimWith drops text) := by
  have front := List.takeWhile_append_dropWhile (p := drops) (l := text)
  have back := List.takeWhile_append_dropWhile (p := drops) (l := (text.dropWhile drops).reverse)
  have kept : trimWith drops text ++ ((text.dropWhile drops).reverse.takeWhile drops).reverse =
      text.dropWhile drops := by
    rw [trimWith, ← List.reverse_append, back, List.reverse_reverse]
  refine ⟨⟨text.takeWhile drops, ((text.dropWhile drops).reverse.takeWhile drops).reverse,
    ?_, ?_, ?_⟩, ?_, ?_⟩
  · rw [List.append_assoc, kept, front]
  · exact fun char member => List.all_eq_true.mp List.all_takeWhile char member
  · intro char member
    exact List.all_eq_true.mp List.all_takeWhile char (List.mem_reverse.mp member)
  · intro char member
    have leading : (text.dropWhile drops).head? = some char := by
      rw [← kept, List.head?_append, Option.mem_def.mp member, Option.some_or]
    simpa [leading] using List.head?_dropWhile_not drops text
  · intro char member
    rw [trimWith, List.getLast?_reverse] at member
    simpa [Option.mem_def.mp member] using
      List.head?_dropWhile_not drops (text.dropWhile drops).reverse

/-- Trimming is the one way to strip both ends. -/
theorem strips_iff {drops : Char → Bool} {text kept : List Char} :
    Strips drops text kept ↔ kept = trimWith drops text :=
  ⟨fun strips => (trimWith_of_strips strips).symm, fun same => same ▸ strips_trimWith drops text⟩

/-- Nothing but blanks, or nothing at all. -/
def Blank (text : String) : Prop :=
  ∀ char ∈ text.toList, isBlank char = true

theorem trimmed_eq_empty_iff {text : String} : trimmed text = "" ↔ Blank text := by
  have strips := strips_trimWith isBlank text.toList
  rw [trimmed, String.ofList_eq_empty_iff, trim]
  constructor
  · intro empty
    obtain ⟨front, back, parts, fronts, backs⟩ := strips.around
    rw [empty, List.append_nil] at parts
    intro char member
    rw [parts] at member
    exact (List.mem_append.mp member).elim (fronts char) (backs char)
  · intro blank
    have none : Strips isBlank text.toList [] :=
      ⟨⟨text.toList, [], by simp, blank, by simp⟩, by simp, by simp⟩
    exact trimWith_of_strips none

theorem trimmed_trimmed (text : String) : trimmed (trimmed text) = trimmed text := by
  have strips := strips_trimWith isBlank text.toList
  have again : Strips isBlank (trim text.toList) (trim text.toList) :=
    ⟨⟨[], [], by simp, by simp, by simp⟩, strips.first, strips.last⟩
  rw [trimmed, trimmed, String.toList_ofList, trim, trimWith_of_strips again]

end Registrar.Text
