import Registrar.Proofs.Text.Offset

/-! Characters that a marker lacks. No occurrence of the marker crosses one of them, so the search
begins anew behind it. A line feed is such a character for a marker that fits on a line. -/
namespace Registrar.Text

variable {marker front back text : List Char} {char : Char}

theorem prefix_append_cons_iff (absent : char ∉ marker) :
    marker <+: front ++ char :: back ↔ marker <+: front := by
  constructor
  · intro leads
    refine List.prefix_of_prefix_length_le leads (List.prefix_append front _) ?_
    by_contra longer
    -- A marker longer than what stands before the character would contain it.
    obtain ⟨more, rfl⟩ := List.prefix_of_prefix_length_le (List.prefix_append front (char :: back))
      leads (by omega)
    rw [List.prefix_append_right_inj] at leads
    cases more with
    | nil => simp at longer
    | cons other more =>
      obtain ⟨rfl, -⟩ := List.cons_prefix_cons.mp leads
      exact absent (by simp)
  · intro leads
    exact leads.trans (List.prefix_append front _)

theorem occurrencesFrom_append_cons (some : marker ≠ []) (absent : char ∉ marker) {skip : Nat}
    (fits : skip ≤ front.length) :
    occurrencesFrom marker skip (front ++ char :: back) =
      (occurrencesFrom marker skip front).map (· ++ char :: back) ++
        occurrencesFrom marker 0 back := by
  induction front generalizing skip with
  | nil =>
    obtain rfl : skip = 0 := by simpa using fits
    have here : ¬ marker.isPrefixOf (char :: back) := by
      rw [List.isPrefixOf_iff_prefix, ← List.nil_append (char :: back), prefix_append_cons_iff absent]
      simpa using some
    change occurrencesFrom marker 0 (char :: back) = occurrencesFrom marker 0 back
    rw [occurrencesFrom, if_neg here]
  | cons first front ih =>
    cases skip with
    | succ skip =>
      rw [List.cons_append, occurrencesFrom, occurrencesFrom, ih (by simpa using fits)]
    | zero =>
      have same : marker.isPrefixOf (first :: (front ++ char :: back)) =
          marker.isPrefixOf (first :: front) := by
        rw [Bool.eq_iff_iff, List.isPrefixOf_iff_prefix, List.isPrefixOf_iff_prefix,
          ← List.cons_append, prefix_append_cons_iff absent]
      rw [List.cons_append, occurrencesFrom, occurrencesFrom, same]
      split
      · rename_i leads
        have fitting := (List.isPrefixOf_iff_prefix.mp leads).length_le
        have remaining : (first :: (front ++ char :: back)).drop marker.length =
            (first :: front).drop marker.length ++ char :: back := by
          rw [← List.cons_append, List.drop_append_of_le_length fitting]
        rw [List.length_cons] at fitting
        rw [ih (by omega), remaining, List.map_cons, List.cons_append]
      · exact ih (Nat.zero_le _)

/-- The search passes over a character that the marker lacks and begins anew behind it. -/
theorem occurrences_append_cons (absent : char ∉ marker) (front back : List Char) :
    occurrences marker (front ++ char :: back) =
      (occurrences marker front).map (· ++ char :: back) ++ occurrences marker back := by
  by_cases empty : marker = []
  · subst empty
    rfl
  · have nonempty : marker.isEmpty = false := by simpa using empty
    simp only [occurrences, nonempty, Bool.false_eq_true, if_false]
    exact occurrencesFrom_append_cons empty absent (Nat.zero_le _)

/-- A marker is found on one of the two sides of a character that it lacks, or nowhere. -/
theorem infix_append_cons_iff (absent : char ∉ marker) :
    marker <:+: front ++ char :: back ↔ marker <:+: front ∨ marker <:+: back := by
  induction front with
  | nil =>
    rw [List.nil_append, List.infix_cons_iff, ← List.nil_append (char :: back),
      prefix_append_cons_iff absent, List.prefix_nil, List.infix_nil]
  | cons first front ih =>
    rw [List.cons_append, List.infix_cons_iff, ← List.cons_append, prefix_append_cons_iff absent, ih,
      List.infix_cons_iff, or_assoc]

theorem occurrences_nil (marker : List Char) : occurrences marker [] = [] := by
  unfold occurrences
  split <;> rfl

theorem occurrences_argument (absent : char ∉ marker) (bare : occurrences marker back = [])
    (front : List Char) : occurrences marker (front ++ char :: back) =
      (occurrences marker front).map (· ++ char :: back) := by
  rw [occurrences_append_cons absent, bare, List.append_nil]

theorem after?_append_cons (absent : char ∉ marker) (front back : List Char) :
    after? marker (front ++ char :: back) =
      ((after? marker front).map (· ++ char :: back)).or (after? marker back) := by
  rw [after?, occurrences_append_cons absent, List.head?_append, List.head?_map, after?, after?]

theorem occurrences_of_not_infix (absent : ¬ marker <:+: text) : occurrences marker text = [] := by
  apply occurrences_absent
  intro skipped after parts
  exact absent ⟨skipped, after, parts.symm⟩

theorem line_append_of_plain (plain : '\n' ∉ front) (back : List Char) :
    line (front ++ back) = front ++ line back := by
  apply List.takeWhile_append_of_pos
  intro char member
  rw [bne_iff_ne]
  rintro rfl
  exact plain member

theorem line_of_plain (plain : '\n' ∉ text) : line text = text := by
  simpa [line] using line_append_of_plain plain []

theorem line_append_feed (plain : '\n' ∉ front) (back : List Char) :
    line (front ++ '\n' :: back) = front := by
  rw [line_append_of_plain plain, line, List.takeWhile_cons_of_neg (by simp), List.append_nil]

/-- Every text is built from its last line by putting lines before it. -/
@[elab_as_elim]
theorem lines_induction {motive : List Char → Prop}
    (last : ∀ line, '\n' ∉ line → motive line)
    (next : ∀ line rest, '\n' ∉ line → motive rest → motive (line ++ '\n' :: rest))
    (text : List Char) : motive text := by
  by_cases feed : '\n' ∈ text
  · obtain ⟨line, rest, rfl, plain⟩ := List.eq_append_cons_of_mem feed
    exact next line rest plain (lines_induction last next rest)
  · exact last text feed
termination_by text.length
decreasing_by
  subst_vars
  simp only [List.length_append, List.length_cons]
  omega

end Registrar.Text
