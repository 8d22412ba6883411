import Mathlib
import Registrar.Decimal.Literal

/-! Digits and the numbers they stand for. A number is written without a needless zero in front, and
digits that have none are those of the number they are read as. -/
namespace Registrar.Decimal

variable {digits others : List Char} {char : Char}

def Digits (digits : List Char) : Prop :=
  ∀ char ∈ digits, isDigit char = true

instance : DecidablePred Digits :=
  fun _ => decidable_of_iff _ List.all_eq_true

/-- Digits without a needless zero in front. -/
structure Tidy (digits : List Char) : Prop where
  nonempty : digits ≠ []
  each : Digits digits
  lead : digits.head? = some '0' → digits = ['0']

theorem digits_append : Digits (digits ++ others) ↔ Digits digits ∧ Digits others :=
  List.forall_mem_append

theorem isDigit_iff : isDigit char = true ↔ char.isDigit = true := by
  rw [isDigit, Char.isDigit, Bool.and_eq_true, Bool.and_eq_true]
  simp [Char.le_def]

theorem no_point_of_digits (every : Digits digits) : '.' ∉ digits := by
  intro member
  have stray : isDigit '.' = false := rfl
  cases stray.symm.trans (every _ member)

/-- The number of a digit is below ten, and the digit is that of its number. -/
theorem digitChar_of_isDigit (digit : isDigit char = true) :
    char.toNat - '0'.toNat < 10 ∧ Nat.digitChar (char.toNat - '0'.toNat) = char := by
  have bounds : 48 ≤ char.toNat ∧ char.toNat ≤ 57 := by
    simpa [isDigit, Char.le_def, UInt32.le_iff_toNat_le] using digit
  obtain ⟨place, same⟩ : ∃ place < 10, char.toNat = 48 + place :=
    ⟨char.toNat - 48, by omega, by omega⟩
  have here : char = Char.ofNat (48 + place) := by rw [← same.2, Char.ofNat_toNat]
  subst here
  have below := same.1
  interval_cases place <;> exact ⟨by decide, by decide⟩

theorem natOfDigits_concat (digits : List Char) (char : Char) :
    natOfDigits (digits ++ [char]) = natOfDigits digits * 10 + (char.toNat - '0'.toNat) := by
  rw [natOfDigits, List.foldl_append]
  rfl

theorem natOfDigits_append (front back : List Char) :
    natOfDigits (front ++ back) = natOfDigits front * 10 ^ back.length + natOfDigits back := by
  induction back using List.reverseRecOn with
  | nil => simp [natOfDigits]
  | append_singleton back last ih =>
    rw [← List.append_assoc, natOfDigits_concat, natOfDigits_concat, ih, List.length_append,
      List.length_singleton, pow_succ]
    ring

theorem natOfDigits_lt (every : Digits digits) : natOfDigits digits < 10 ^ digits.length := by
  induction digits using List.reverseRecOn with
  | nil => simp [natOfDigits]
  | append_singleton front last ih =>
    obtain ⟨before, here⟩ := digits_append.mp every
    have below := (digitChar_of_isDigit (here last (by simp))).1
    have rest := ih before
    rw [natOfDigits_concat, List.length_append, List.length_singleton, pow_succ]
    omega

/-- As many digits with the same number are the same digits. -/
theorem natOfDigits_inj (every : Digits digits) (every' : Digits others)
    (long : digits.length = others.length) (same : natOfDigits digits = natOfDigits others) :
    digits = others := by
  induction digits using List.reverseRecOn generalizing others with
  | nil => exact (List.eq_nil_of_length_eq_zero long.symm).symm
  | append_singleton front last ih =>
    cases others using List.reverseRecOn with
    | nil => simp at long
    | append_singleton front' last' =>
      obtain ⟨before, here⟩ := digits_append.mp every
      obtain ⟨before', here'⟩ := digits_append.mp every'
      obtain ⟨below, shown⟩ := digitChar_of_isDigit (here last (by simp))
      obtain ⟨below', shown'⟩ := digitChar_of_isDigit (here' last' (by simp))
      rw [natOfDigits_concat, natOfDigits_concat] at same
      -- The last digits are the remainders by ten, and the quotients are told apart by the rest.
      have fronts : natOfDigits front = natOfDigits front' := by omega
      have lasts : last.toNat - '0'.toNat = last'.toNat - '0'.toNat := by omega
      rw [ih before before' (by simpa using long) fronts, ← shown, ← shown', lasts]

theorem natOfDigits_toDigits (number : Nat) : natOfDigits (Nat.toDigits 10 number) = number := by
  have step : natOfDigits (Nat.toDigits 10 number) =
      Nat.ofDigitChars 10 (Nat.toDigits 10 number) 0 := by
    rw [natOfDigits, Nat.ofDigitChars]
    simp only [Nat.mul_comm]
  rw [step, Nat.ofDigitChars_ten_toDigits]

theorem digits_toDigits (number : Nat) : Digits (Nat.toDigits 10 number) :=
  fun _ member => isDigit_iff.mpr (Nat.isDigit_of_mem_toDigits (by decide) (by decide) member)

theorem toDigits_zero : Nat.toDigits 10 0 = ['0'] := rfl

theorem head?_toDigits_ne_zero {number : Nat} (positive : 0 < number) :
    (Nat.toDigits 10 number).head? ≠ some '0' := by
  induction number using Nat.strongRecOn with
  | ind number ih =>
    by_cases single : number < 10
    · interval_cases number <;> decide
    · have long : 10 ≤ number := not_lt.mp single
      rw [Nat.toDigits_of_base_le (by decide) long, List.head?_append_of_ne_nil _ Nat.toDigits_ne_nil]
      exact ih (number / 10) (by omega) (by omega)

theorem tidy_toDigits (number : Nat) : Tidy (Nat.toDigits 10 number) := by
  refine ⟨Nat.toDigits_ne_nil, digits_toDigits number, ?_⟩
  intro zero
  rcases Nat.eq_zero_or_pos number with rfl | positive
  · exact toDigits_zero
  · exact absurd zero (head?_toDigits_ne_zero positive)

theorem natOfDigits_pos (tidy : Tidy digits) (more : digits ≠ ['0']) : 0 < natOfDigits digits := by
  obtain ⟨char, rest, rfl⟩ := List.exists_cons_of_ne_nil tidy.nonempty
  have digit := tidy.each char List.mem_cons_self
  have leads : char ≠ '0' := by
    rintro rfl
    exact more (tidy.lead rfl)
  have first : 0 < natOfDigits [char] := by
    obtain ⟨-, shown⟩ := digitChar_of_isDigit digit
    by_contra none
    have nought : char.toNat - '0'.toNat = 0 := by
      simpa [natOfDigits, Nat.sub_eq_zero_iff_le] using none
    rw [nought] at shown
    exact leads shown.symm
  rw [← List.singleton_append, natOfDigits_append]
  positivity

/-- Digits that start without a needless zero still do so with more behind them. -/
theorem Tidy.append (tidy : Tidy digits) (more : digits ≠ ['0']) (every : Digits others) :
    Tidy (digits ++ others) := by
  refine ⟨by simp [tidy.nonempty], digits_append.mpr ⟨tidy.each, every⟩, ?_⟩
  intro lead
  rw [List.head?_append_of_ne_nil _ tidy.nonempty] at lead
  exact absurd (tidy.lead lead) more

/-- Tidy digits are the ones that their number is written with. -/
theorem toDigits_natOfDigits (tidy : Tidy digits) : Nat.toDigits 10 (natOfDigits digits) = digits := by
  induction digits using List.reverseRecOn with
  | nil => exact absurd rfl tidy.nonempty
  | append_singleton front last ih =>
    obtain ⟨before, here⟩ := digits_append.mp tidy.each
    obtain ⟨below, shown⟩ := digitChar_of_isDigit (here last (by simp))
    rw [natOfDigits_concat]
    by_cases single : front = []
    · subst single
      rw [Nat.toDigits_of_lt_base (by simpa [natOfDigits] using below)]
      simpa [natOfDigits] using shown
    · have leads : front.head? ≠ some '0' := by
        intro zero
        have whole := tidy.lead (by rw [List.head?_append_of_ne_nil _ single, zero])
        exact single (List.append_eq_singleton_iff.mp whole |>.resolve_right (by simp)).1
      have start : Tidy front := ⟨single, before, fun zero => absurd zero leads⟩
      have positive : 0 < natOfDigits front := by
        apply natOfDigits_pos start
        rintro rfl
        exact leads rfl
      rw [Nat.toDigits_of_base_le (by decide) (by omega), show
        (natOfDigits front * 10 + (last.toNat - '0'.toNat)) / 10 = natOfDigits front by omega, show
        (natOfDigits front * 10 + (last.toNat - '0'.toNat)) % 10 = last.toNat - '0'.toNat by omega,
        ih start, shown]

theorem tidy_iff : Tidy digits ↔ Nat.toDigits 10 (natOfDigits digits) = digits :=
  ⟨toDigits_natOfDigits, fun same => same ▸ tidy_toDigits _⟩

/-! ### Whole numbers -/

/-- A whole number as it is written: no plus sign, no needless zero, no sign before a zero. -/
inductive WholeNumeral : List Char → Prop
  | plain {digits : List Char} (tidy : Tidy digits) : WholeNumeral digits
  | negative {digits : List Char} (tidy : Tidy digits) (more : digits ≠ ['0']) :
      WholeNumeral ('-' :: digits)

variable {text : List Char} {value : Int}

theorem nat?_eq_some_iff {number : Nat} :
    nat? digits = some number ↔ digits ≠ [] ∧ Digits digits ∧ natOfDigits digits = number := by
  rw [nat?]
  split
  · rename_i wrong
    simp only [reduceCtorEq, false_iff, not_and]
    intro nonempty every
    simp only [Bool.or_eq_true, List.isEmpty_iff, nonempty, List.any_eq_true, Bool.not_eq_true',
      false_or] at wrong
    obtain ⟨char, member, stray⟩ := wrong
    cases stray.symm.trans (every char member)
  · rename_i right
    simp only [Bool.or_eq_true, List.isEmpty_iff, List.any_eq_true, Bool.not_eq_true', not_or,
      not_exists, not_and, Bool.not_eq_false] at right
    simp only [Option.some.injEq]
    exact ⟨fun same => ⟨right.1, right.2, same⟩, fun ⟨_, _, same⟩ => same⟩

/-- A whole number that was read: digits, with a sign before them or none. -/
inductive Whole : List Char → Int → Prop
  | minus {digits : List Char} (nonempty : digits ≠ []) (every : Digits digits) :
      Whole ('-' :: digits) (-(natOfDigits digits : Int))
  | plus {digits : List Char} (nonempty : digits ≠ []) (every : Digits digits) :
      Whole ('+' :: digits) (natOfDigits digits)
  | bare {digits : List Char} (nonempty : digits ≠ []) (every : Digits digits) :
      Whole digits (natOfDigits digits)

theorem whole_of_int? (reads : int? text = some value) : Whole text value := by
  unfold int? splitSign at reads
  split at reads
  rename_i negative digits parts
  obtain ⟨_, lifted, rfl⟩ := Option.map_eq_some_iff.mp reads
  obtain ⟨number, read, same⟩ := Option.bind_eq_some_iff.mp lifted
  cases same
  obtain ⟨nonempty, every, rfl⟩ := nat?_eq_some_iff.mp read
  split at parts
  all_goals
    cases parts
  · exact .minus nonempty every
  · exact .plus nonempty every
  · exact .bare nonempty every

theorem Whole.no_point (whole : Whole text value) : '.' ∉ text := by
  cases whole with
  | minus _ every => simpa using no_point_of_digits every
  | plus _ every => simpa using no_point_of_digits every
  | bare _ every => exact no_point_of_digits every

theorem toString_natCast (number : Nat) :
    toString (number : Int) = String.ofList (Nat.toDigits 10 number) :=
  Nat.repr_eq_ofList_toDigits

theorem toString_neg {number : Nat} (positive : 0 < number) :
    toString (-(number : Int)) = String.ofList ('-' :: Nat.toDigits 10 number) := by
  obtain ⟨before, rfl⟩ := Nat.exists_eq_add_one_of_ne_zero positive.ne'
  have shown : toString (-((before + 1 : Nat) : Int)) = String.ofList ['-'] ++ (before + 1).repr := rfl
  rw [shown, Nat.repr_eq_ofList_toDigits, ← String.ofList_append, List.singleton_append]

theorem not_digits_sign {sign : Char} (stray : isDigit sign = false) : ¬ Digits (sign :: digits) := by
  intro every
  cases stray.symm.trans (every sign List.mem_cons_self)

/-- A whole number is written as it was read where it was written without a needless character. -/
theorem toString_eq_iff (whole : Whole text value) :
    toString value = String.ofList text ↔ WholeNumeral text := by
  cases whole with
  | @minus digits nonempty every =>
    have numeral : WholeNumeral ('-' :: digits) ↔ Tidy digits ∧ digits ≠ ['0'] := by
      constructor
      · intro numeral
        cases numeral with
        | plain tidy => exact absurd tidy.each (not_digits_sign rfl)
        | negative tidy more => exact ⟨tidy, more⟩
      · exact fun ⟨tidy, more⟩ => .negative tidy more
    rw [numeral]
    rcases Nat.eq_zero_or_pos (natOfDigits digits) with zero | positive
    · have shown : toString (-(natOfDigits digits : Int)) = String.ofList ['0'] := by
        rw [zero]
        rfl
      have nought : Tidy digits → digits = ['0'] := by
        intro tidy
        by_contra more
        exact absurd zero (natOfDigits_pos tidy more).ne'
      rw [shown, String.ofList_inj]
      simpa using nought
    · have more : digits ≠ ['0'] := by
        rintro rfl
        exact absurd positive (by decide)
      rw [toString_neg positive, String.ofList_inj, List.cons_inj_right, ← tidy_iff]
      exact (and_iff_left more).symm
  | @plus digits nonempty every =>
    rw [toString_natCast, String.ofList_inj]
    have signed : ¬ Digits ('+' :: digits) := not_digits_sign rfl
    constructor
    · intro same
      exact absurd (same ▸ digits_toDigits _) signed
    · intro numeral
      cases numeral with
      | plain tidy => exact absurd tidy.each signed
  | bare nonempty every =>
    rw [toString_natCast, String.ofList_inj, ← tidy_iff]
    constructor
    · exact .plain
    · intro numeral
      cases numeral with
      | plain tidy => exact tidy
      | negative => exact absurd every (not_digits_sign rfl)

end Registrar.Decimal
