import Mathlib.Data.List.Forall2
import Mathlib.Data.Nat.Find
import Registrar.Proofs.Text.Encoding
import Registrar.Text.Blank
import Registrar.Text.Occurrence

/-! Where a marker stands in a text, by byte offsets, and the search for markers from left to right
as a search over offsets. -/
namespace Registrar.Text

/-- A marker stands at an offset of the text if its bytes do. An empty one stands nowhere. -/
def StandsAt (marker text : List Char) (offset : Nat) : Prop :=
  marker ≠ [] ∧ Utf8.encode marker <+: (Utf8.encode text).drop offset

/-- The least offset, at or after `start`, where the marker stands. -/
def FirstFrom (marker text : List Char) (start offset : Nat) : Prop :=
  start ≤ offset ∧ StandsAt marker text offset ∧
    ∀ earlier, start ≤ earlier → earlier < offset → ¬ StandsAt marker text earlier

/-- The offset just after a marker that stands at an offset. -/
def endOf (marker : List Char) (offset : Nat) : Nat :=
  offset + (Utf8.encode marker).length

/-- The offsets of a marker from `start` on: each is the least at or after the end of the one
before it, and none is left after the last. -/
inductive Successive (marker text : List Char) : Nat → List Nat → Prop
  | absent {start : Nat} (none : ∀ offset, start ≤ offset → ¬ StandsAt marker text offset) :
      Successive marker text start []
  | next {start offset : Nat} {offsets : List Nat} (first : FirstFrom marker text start offset)
      (rest : Successive marker text (endOf marker offset) offsets) :
      Successive marker text start (offset :: offsets)

/-- The argument that begins at an offset: the bytes up to the next line feed, or to the end. -/
def Argument (text : List Char) (offset : Nat) (argument : List Char) : Prop :=
  Utf8.encode argument = ((Utf8.encode text).drop offset).takeWhile (· != 0x0A)

theorem FirstFrom.unique {marker text : List Char} {start offset other : Nat}
    (first : FirstFrom marker text start offset) (second : FirstFrom marker text start other) :
    offset = other := by
  obtain ⟨after, stands, least⟩ := first
  obtain ⟨otherAfter, otherStands, otherLeast⟩ := second
  rcases Nat.lt_trichotomy offset other with less | same | more
  · exact absurd stands (otherLeast offset after less)
  · exact same
  · exact absurd otherStands (least other otherAfter more)

theorem Successive.unique {marker text : List Char} {start : Nat} {offsets others : List Nat}
    (left : Successive marker text start offsets) (right : Successive marker text start others) :
    offsets = others := by
  induction left generalizing others with
  | absent none =>
    cases right with
    | absent => rfl
    | next first => exact absurd first.2.1 (none _ first.1)
  | next first rest ih =>
    cases right with
    | absent none => exact absurd first.2.1 (none _ first.1)
    | next otherFirst otherRest =>
      cases first.unique otherFirst
      rw [ih otherRest]

theorem Argument.unique {text argument other : List Char} {offset : Nat}
    (left : Argument text offset argument) (right : Argument text offset other) :
    argument = other :=
  Utf8.encode_injective (left.trans right.symm)

/-- `rest` is what follows an offset that lies between two characters. -/
def Follows (text : List Char) (offset : Nat) (rest : List Char) : Prop :=
  ∃ before, text = before ++ rest ∧ (Utf8.encode before).length = offset

theorem follows_start (text : List Char) : Follows text 0 text := ⟨[], rfl, rfl⟩

theorem Follows.append {text skipped rest : List Char} {offset : Nat}
    (follows : Follows text offset (skipped ++ rest)) :
    Follows text (offset + (Utf8.encode skipped).length) rest := by
  obtain ⟨before, rfl, length⟩ := follows
  refine ⟨before ++ skipped, by rw [List.append_assoc], ?_⟩
  rw [Utf8.encode_append, List.length_append, length]

theorem Follows.drop {text rest : List Char} {offset : Nat} (follows : Follows text offset rest) :
    (Utf8.encode text).drop offset = Utf8.encode rest := by
  obtain ⟨before, rfl, rfl⟩ := follows
  rw [Utf8.encode_append, List.drop_left]

theorem Follows.unique {text rest other : List Char} {offset : Nat}
    (left : Follows text offset rest) (right : Follows text offset other) : rest = other :=
  Utf8.encode_injective (left.drop.symm.trans right.drop)

/-- After an offset, a marker stands just where the characters that follow hold it. -/
theorem Follows.standsAt_iff {marker text rest : List Char} {start offset : Nat}
    (follows : Follows text start rest) (later : start ≤ offset) :
    StandsAt marker text offset ↔ marker ≠ [] ∧
      ∃ skipped after, rest = skipped ++ marker ++ after ∧
        offset = start + (Utf8.encode skipped).length := by
  apply and_congr_right
  intro some
  constructor
  · intro stands
    rw [← Nat.add_sub_cancel' later, ← List.drop_drop, follows.drop] at stands
    obtain ⟨skipped, after, parts, length⟩ := Utf8.encode_drop_prefix some stands
    exact ⟨skipped, after, parts, by omega⟩
  · rintro ⟨skipped, after, rfl, rfl⟩
    rw [List.append_assoc] at follows
    rw [follows.append.drop, Utf8.encode_append]
    exact List.prefix_append ..

theorem encode_length_pos {text : List Char} (some : text ≠ []) : 0 < (Utf8.encode text).length := by
  obtain ⟨char, text, rfl⟩ := List.exists_cons_of_ne_nil some
  obtain ⟨first, rest, shape, -⟩ := Utf8.encodeChar_shape char
  rw [Utf8.encode, List.flatMap_cons, shape, List.cons_append]
  exact Nat.succ_pos _

theorem occurrencesFrom_skip (marker : List Char) (skip : Nat) (text : List Char) :
    occurrencesFrom marker skip text = occurrencesFrom marker 0 (text.drop skip) := by
  induction text generalizing skip with
  | nil => simp [occurrencesFrom]
  | cons char text ih =>
    cases skip with
    | zero => rfl
    | succ skip => rw [occurrencesFrom, ih, List.drop_succ_cons]

theorem occurrences_absent {marker text : List Char}
    (absent : ∀ skipped after, text ≠ skipped ++ marker ++ after) : occurrences marker text = [] := by
  unfold occurrences
  split
  · rfl
  rename_i nonempty
  induction text with
  | nil => rfl
  | cons char text ih =>
    have here : ¬ marker.isPrefixOf (char :: text) := by
      intro leads
      obtain ⟨after, parts⟩ := List.isPrefixOf_iff_prefix.mp leads
      exact absent [] after (by rw [List.nil_append, parts])
    rw [occurrencesFrom, if_neg here]
    refine ih fun skipped after parts => absent (char :: skipped) after ?_
    rw [parts, List.cons_append, List.cons_append]

/-- The search stops first at the occurrence with the fewest characters before it, and goes on
behind it. -/
theorem occurrences_first {marker skipped after : List Char} (some : marker ≠ [])
    (least : ∀ fewer more, skipped ++ marker ++ after = fewer ++ marker ++ more →
      skipped.length ≤ fewer.length) :
    occurrences marker (skipped ++ marker ++ after) = after :: occurrences marker after := by
  have nonempty : marker.isEmpty = false := by simpa using some
  simp only [occurrences, nonempty, Bool.false_eq_true, if_false]
  induction skipped with
  | nil =>
    obtain ⟨char, marker, rfl⟩ := List.exists_cons_of_ne_nil some
    have here : (char :: marker).isPrefixOf (char :: (marker ++ after)) := by
      rw [List.isPrefixOf_iff_prefix]
      exact ⟨after, rfl⟩
    rw [List.nil_append, List.cons_append, occurrencesFrom, if_pos here, occurrencesFrom_skip,
      List.length_cons, Nat.add_sub_cancel, List.drop_left, List.drop_succ_cons, List.drop_left]
  | cons char skipped ih =>
    have here : ¬ marker.isPrefixOf (char :: (skipped ++ marker ++ after)) := by
      intro leads
      obtain ⟨more, parts⟩ := List.isPrefixOf_iff_prefix.mp leads
      have shorter := least [] more (by simpa using parts.symm)
      simp at shorter
    rw [List.cons_append, List.cons_append, occurrencesFrom, if_neg here]
    apply ih
    intro fewer more parts
    have longer := least (char :: fewer) more (by rw [List.cons_append, List.cons_append, parts]; rfl)
    simpa using longer

/-- The first occurrence by offsets is the first by characters. -/
theorem FirstFrom.occurrences {marker text rest : List Char} {start offset : Nat}
    (first : FirstFrom marker text start offset) (follows : Follows text start rest) :
    ∃ after, Follows text (endOf marker offset) after ∧
      occurrences marker rest = after :: occurrences marker after ∧ after.length < rest.length := by
  obtain ⟨later, stands, least⟩ := first
  obtain ⟨some, skipped, after, rfl, rfl⟩ := (follows.standsAt_iff later).mp stands
  refine ⟨after, ?_, occurrences_first some fun fewer more parts => ?_, ?_⟩
  · have behind := follows.append
    rwa [Utf8.encode_append, List.length_append, ← Nat.add_assoc] at behind
  · -- An occurrence with fewer characters before it would have fewer bytes before it.
    by_contra longer
    have initial : fewer <+: skipped := by
      refine List.prefix_of_prefix_length_le (?_ : fewer <+: skipped ++ marker ++ after) ?_ (by omega)
      · exact ⟨marker ++ more, by rw [parts, List.append_assoc]⟩
      · exact ⟨marker ++ after, by rw [List.append_assoc]⟩
    obtain ⟨left, rfl⟩ := initial
    have nonempty : left ≠ [] := by
      rintro rfl
      simp at longer
    have bytes := encode_length_pos nonempty
    refine least (start + (Utf8.encode fewer).length) (by omega) ?_ ?_
    · rw [Utf8.encode_append, List.length_append]
      omega
    · exact (follows.standsAt_iff (by omega)).mpr ⟨some, fewer, more, parts, rfl⟩
  · have bytes := List.length_pos_iff.mpr some
    simp only [List.length_append]
    omega

theorem Follows.occurrences_absent {marker text rest : List Char} {start : Nat}
    (follows : Follows text start rest)
    (absent : ∀ offset, start ≤ offset → ¬ StandsAt marker text offset) :
    occurrences marker rest = [] := by
  by_cases empty : marker = []
  · rw [empty, occurrences_empty]
  apply Text.occurrences_absent
  intro skipped after parts
  exact absent (start + (Utf8.encode skipped).length) (by omega)
    ((follows.standsAt_iff (by omega)).mpr ⟨empty, skipped, after, parts, rfl⟩)

theorem exists_first_or_absent (marker text : List Char) (start : Nat) :
    (∃ offset, FirstFrom marker text start offset) ∨
      ∀ offset, start ≤ offset → ¬ StandsAt marker text offset := by
  classical
  by_cases stands : ∃ offset, start ≤ offset ∧ StandsAt marker text offset
  · refine Or.inl ⟨Nat.find stands, (Nat.find_spec stands).1, (Nat.find_spec stands).2, ?_⟩
    intro earlier later less here
    exact Nat.find_min stands less ⟨later, here⟩
  · exact Or.inr fun offset later here => stands ⟨offset, later, here⟩

/-- From an offset between two characters on, the occurrences that the search finds are those
after the successive offsets of the marker. -/
theorem Follows.successive {text : List Char} (marker : List Char) {start : Nat} {rest : List Char}
    (follows : Follows text start rest) :
    ∃ offsets, Successive marker text start offsets ∧
      List.Forall₂ (fun offset after => Follows text (endOf marker offset) after)
        offsets (occurrences marker rest) := by
  rcases exists_first_or_absent marker text start with ⟨offset, first⟩ | absent
  · obtain ⟨after, behind, found, shorter⟩ := first.occurrences follows
    obtain ⟨offsets, successive, later⟩ := behind.successive marker
    exact ⟨offset :: offsets, .next first successive, found ▸ .cons behind later⟩
  · exact ⟨[], .absent absent, follows.occurrences_absent absent ▸ .nil⟩
termination_by rest.length

theorem after?_eq_some_iff {marker text rest : List Char} :
    after? marker text = some rest ↔
      ∃ offset, FirstFrom marker text 0 offset ∧ Follows text (endOf marker offset) rest := by
  have whole := follows_start text
  rw [after?]
  rcases exists_first_or_absent marker text 0 with ⟨offset, first⟩ | absent
  · obtain ⟨after, behind, found, -⟩ := first.occurrences whole
    rw [found, List.head?_cons, Option.some.injEq]
    constructor
    · rintro rfl
      exact ⟨offset, first, behind⟩
    · rintro ⟨other, otherFirst, otherBehind⟩
      cases first.unique otherFirst
      exact behind.unique otherBehind
  · rw [whole.occurrences_absent absent]
    constructor
    · rintro ⟨⟩
    rintro ⟨offset, first, -⟩
    exact absurd first.2.1 (absent offset first.1)

theorem after?_eq_none_iff {marker text : List Char} :
    after? marker text = none ↔ ∀ offset, ¬ StandsAt marker text offset := by
  have whole := follows_start text
  rw [after?]
  rcases exists_first_or_absent marker text 0 with ⟨offset, first⟩ | absent
  · obtain ⟨after, -, found, -⟩ := first.occurrences whole
    rw [found]
    constructor
    · rintro ⟨⟩
    · exact fun absent => absurd first.2.1 (absent offset)
  · rw [whole.occurrences_absent absent]
    exact ⟨fun _ offset => absent offset (Nat.zero_le offset), fun _ => rfl⟩

/-- A line feed is one byte, and that byte belongs to no other character. -/
theorem encode_line (text : List Char) :
    Utf8.encode (line text) = (Utf8.encode text).takeWhile (· != 0x0A) := by
  induction text with
  | nil => rfl
  | cons char text ih =>
    have unfolded (text : List Char) :
        Utf8.encode (char :: text) = Utf8.encodeChar char ++ Utf8.encode text := rfl
    by_cases feed : char = '\n'
    · subst feed
      rfl
    · have longer : line (char :: text) = char :: line text := by
        rw [line, List.takeWhile_cons_of_pos (by simpa using feed), line]
      have noFeed : ∀ byte ∈ Utf8.encodeChar char, (byte != 0x0A) = true := by
        intro byte member
        rw [bne_iff_ne]
        rintro rfl
        have code := (Utf8.encodeChar_ascii member (by decide)).2
        exact feed (Char.toNat_inj.mp code.symm)
      rw [longer, unfolded, unfolded, List.takeWhile_append_of_pos noFeed, ih]

theorem Follows.argument {text rest : List Char} {offset : Nat} (follows : Follows text offset rest) :
    Argument text offset (line rest) := by
  rw [Argument, follows.drop, encode_line]

end Registrar.Text
