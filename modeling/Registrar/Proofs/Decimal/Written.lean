import Mathlib
import Registrar.Proofs.Decimal.Shortest

/-! Decimals with a point, as they are written. A text that is read as a double is printed back as it
stands where it is the shortest decimal of the double, without a needless character. -/
namespace Registrar.Decimal
open Double

variable {significand : Nat} {exponent : Int} {decimal : Numeral} {negative : Bool}
  {whole places digits text : List Char} {value : Double}

def signed (negative : Bool) (text : List Char) : List Char :=
  if negative then '-' :: text else text

/-- A decimal with a point as it is written: no plus sign, no needless zero in front, digits on both
sides of the point, no exponent; and it is the shortest of those read as the same double. -/
inductive PointNumeral : List Char → Prop
  | intro {negative : Bool} {whole places : List Char} {significand : Nat} {exponent : Int}
      (tidy : Tidy whole) (every : Digits places) (nonempty : places ≠ [])
      (reads : double? (signed negative (whole ++ '.' :: places)) =
        some (.finite negative significand exponent))
      (shortest : Shortest significand exponent ⟨natOfDigits (whole ++ places), -places.length⟩) :
      PointNumeral (signed negative (whole ++ '.' :: places))

/-- A decimal with at most fifteen digits and three hundred places, without a needless character. -/
inductive ShortNumeral : List Char → Prop
  | intro {negative : Bool} {whole places : List Char} (tidy : Tidy whole) (every : Digits places)
      (nonempty : places ≠ []) (last : places.getLast? ≠ some '0')
      (few : natOfDigits (whole ++ places) < 10 ^ 15) (near : places.length ≤ 300) :
      ShortNumeral (signed negative (whole ++ '.' :: places))

/-! ### Digits around a point -/

theorem natOfDigits_zeros (count : Nat) (digits : List Char) :
    natOfDigits (List.replicate count '0' ++ digits) = natOfDigits digits := by
  induction count with
  | zero => rfl
  | succ count ih =>
    rw [List.replicate_succ, List.cons_append, ← ih]
    rfl

theorem digits_zeros (count : Nat) : Digits (List.replicate count '0') := by
  intro char member
  rw [List.eq_of_mem_replicate member]
  rfl

/-- A number that is small enough has so many digits, with zeros in front. -/
theorem exists_digits {number count : Nat} (small : number < 10 ^ count) :
    ∃ digits, Digits digits ∧ digits.length = count ∧ natOfDigits digits = number := by
  rcases Nat.eq_zero_or_pos count with rfl | more
  · refine ⟨[], by simp [Digits], rfl, ?_⟩
    rw [pow_zero] at small
    exact (Nat.lt_one_iff.mp small).symm
  · have long := (Nat.length_toDigits_le_iff (by decide) more).mpr small
    refine ⟨List.replicate (count - (Nat.toDigits 10 number).length) '0' ++ Nat.toDigits 10 number,
      digits_append.mpr ⟨digits_zeros _, digits_toDigits number⟩, ?_, ?_⟩
    · rw [List.length_append, List.length_replicate]
      omega
    · rw [natOfDigits_zeros, natOfDigits_toDigits]

theorem exists_places (part : decimal.exponent < 0) :
    ∃ whole places, Tidy whole ∧ Digits places ∧ places ≠ [] ∧
      decimal = ⟨natOfDigits (whole ++ places), -places.length⟩ := by
  obtain ⟨number, ten⟩ := decimal
  obtain ⟨count, rfl⟩ : ∃ count : Nat, ten = -(count : Int) := ⟨(-ten).toNat, by dsimp at part; omega⟩
  have more : 0 < count := by simpa using part
  have small : number % 10 ^ count < 10 ^ count := Nat.mod_lt number (Nat.pow_pos (by decide))
  obtain ⟨places, every, rfl, same⟩ := exists_digits small
  refine ⟨Nat.toDigits 10 (number / 10 ^ places.length), places, tidy_toDigits _, every,
    List.length_pos_iff.mp more, ?_⟩
  rw [natOfDigits_append, natOfDigits_toDigits, same, Nat.div_add_mod']

/-- A decimal with places is printed as its digits with a point among them. -/
theorem text_of_places (tidy : Tidy whole) (every : Digits places) (nonempty : places ≠ []) :
    Numeral.text ⟨natOfDigits (whole ++ places), -places.length⟩ =
      String.ofList (whole ++ '.' :: places) := by
  have more : 0 < places.length := List.length_pos_iff.mpr nonempty
  have front : 0 < whole.length := List.length_pos_iff.mpr tidy.nonempty
  have long : (List.replicate (places.length + 1 -
      (Nat.toDigits 10 (natOfDigits (whole ++ places))).length) '0' ++
        Nat.toDigits 10 (natOfDigits (whole ++ places))).length = (whole ++ places).length := by
    rw [List.length_append, List.length_replicate, List.length_append]
    -- A lone zero in front is what the padding adds; other digits in front are the number's own.
    by_cases zero : whole = ['0']
    · have small : natOfDigits (whole ++ places) < 10 ^ places.length := by
        have nothing : natOfDigits ['0'] = 0 := rfl
        rw [natOfDigits_append, zero, nothing, Nat.zero_mul, Nat.zero_add]
        exact natOfDigits_lt every
      have short := (Nat.length_toDigits_le_iff (by decide) more).mpr small
      rw [zero, List.length_singleton] at *
      omega
    · rw [toDigits_natOfDigits (tidy.append zero every), List.length_append]
      omega
  have padded := natOfDigits_inj (digits_append.mpr ⟨digits_zeros _, digits_toDigits _⟩)
    (digits_append.mpr ⟨tidy.each, every⟩) long
    ((natOfDigits_zeros _ _).trans (natOfDigits_toDigits _))
  simp only [Numeral.text]
  rw [if_neg (by omega), neg_neg, Int.toNat_natCast, padded, List.length_append, Nat.add_sub_cancel,
    List.take_left, List.drop_left]

/-- Without places there is no point. -/
theorem text_no_point (whole : 0 ≤ decimal.exponent) : '.' ∉ decimal.text.toList := by
  rw [Numeral.text]
  dsimp only
  rw [if_pos whole, String.toList_ofList]
  exact no_point_of_digits (digits_append.mpr ⟨digits_toDigits _, digits_zeros _⟩)

/-! ### Reading and printing -/

theorem splitSign_signed (tidy : Tidy whole) (negative : Bool) (rest : List Char) :
    splitSign (signed negative (whole ++ rest)) = (negative, whole ++ rest) := by
  cases negative with
  | true => rfl
  | false =>
    obtain ⟨char, others, rfl⟩ := List.exists_cons_of_ne_nil tidy.nonempty
    have digit := tidy.each char List.mem_cons_self
    rw [signed, if_neg Bool.false_ne_true, splitSign.eq_def]
    split
    · rename_i same
      cases same
      cases digit
    · rename_i same
      cases same
      cases digit
    · rfl

theorem takeWhile_digits (every : Digits digits) (rest : List Char)
    (stop : ∀ char ∈ rest.head?, isDigit char = false) :
    (digits ++ rest).takeWhile isDigit = digits ∧ (digits ++ rest).dropWhile isDigit = rest := by
  have none : rest.takeWhile isDigit = [] ∧ rest.dropWhile isDigit = rest := by
    cases rest with
    | nil => exact ⟨rfl, rfl⟩
    | cons char rest =>
      have stray := stop char rfl
      exact ⟨List.takeWhile_cons_of_neg (by simp [stray]), List.dropWhile_cons_of_neg (by simp [stray])⟩
  rw [List.takeWhile_append_of_pos every, List.dropWhile_append_of_pos every, none.1, none.2,
    List.append_nil]
  exact ⟨rfl, rfl⟩

theorem double?_written (tidy : Tidy whole) (every : Digits places) (negative : Bool) :
    double? (signed negative (whole ++ '.' :: places)) =
      some (ofDecimal negative (natOfDigits (whole ++ places)) (-places.length)) := by
  obtain ⟨front, rest⟩ := takeWhile_digits tidy.each ('.' :: places)
    (by simp [isDigit])
  obtain ⟨back, nothing⟩ := takeWhile_digits every [] (by simp)
  rw [List.append_nil] at back nothing
  have given : (whole.isEmpty && places.isEmpty) = false := by simp [tidy.nonempty]
  simp only [double?, splitSign_signed tidy, front, rest, back, nothing, given, exponent?,
    Bool.false_eq_true, ↓reduceIte, Option.bind_eq_bind, Option.bind_some, zero_sub]
  rfl

theorem exists_ofDecimal (reads : double? text = some value) :
    ∃ negative digits ten, ofDecimal negative digits ten = value := by
  simp only [double?] at reads
  split at reads <;> split at reads
  · cases reads
  · obtain ⟨ten, -, same⟩ := Option.bind_eq_some_iff.mp reads
    cases same
    exact ⟨_, _, _, rfl⟩
  · cases reads
  · obtain ⟨ten, -, same⟩ := Option.bind_eq_some_iff.mp reads
    cases same
    exact ⟨_, _, _, rfl⟩

theorem toList_text_finite (negative : Bool) (positive : 0 < significand) (exponent : Int) :
    (Double.text (.finite negative significand exponent)).toList =
      signed negative (shortest significand exponent).text.toList := by
  rw [Double.text, if_neg positive.ne']
  cases negative with
  | false => rfl
  | true => exact String.toList_append

/-- Zero has no shortest decimal, as it is a multiple of every power of ten. -/
theorem Shortest.pos (shortest : Shortest significand exponent decimal) : 0 < significand := by
  rcases Nat.eq_zero_or_pos significand with rfl | positive
  · have zero := around_self 0 exponent
    rw [Nat.cast_zero, zero_mul] at zero
    have multiple := shortest.coarser 0
    rw [Nat.cast_zero, zero_mul] at multiple
    exact absurd zero multiple
  · exact positive

/-- **A decimal is printed as it was read** exactly where it is written as the shortest decimal of
its double. -/
theorem text_eq_iff (point : '.' ∈ text) (reads : double? text = some value) :
    value.text = String.ofList text ↔ PointNumeral text := by
  constructor
  · intro same
    have shown : value.text.toList = text := by rw [same, String.toList_ofList]
    rw [← shown] at point
    cases value with
    | infinite negative => cases negative <;> simp [Double.text] at point
    | notANumber => simp [Double.text] at point
    | finite negative significand exponent =>
      rcases Nat.eq_zero_or_pos significand with rfl | positive
      · cases negative <;> simp [Double.text] at point
      · obtain ⟨_, digits, ten, read⟩ := exists_ofDecimal reads
        obtain ⟨-, rounds⟩ := rounds_of_ofDecimal read positive.ne'
        have least := shortest_spec positive rounds.fits rounds.least
        rw [toList_text_finite negative positive] at shown point
        by_cases part : (shortest significand exponent).exponent < 0
        · obtain ⟨whole, places, tidy, every, nonempty, written⟩ := exists_places part
          rw [written] at shown least
          rw [text_of_places tidy every nonempty, String.toList_ofList] at shown
          subst shown
          exact .intro tidy every nonempty reads least
        · have none := text_no_point (not_lt.mp part)
          cases negative with
          | false => exact absurd point none
          | true => exact absurd point (by simpa [signed] using none)
  · intro numeral
    cases numeral with
    | @intro negative whole places significand exponent tidy every nonempty reads' least =>
      obtain rfl := Option.some.inj (reads.symm.trans reads')
      obtain ⟨_, digits, ten, read⟩ := exists_ofDecimal reads
      obtain ⟨-, rounds⟩ := rounds_of_ofDecimal read least.pos.ne'
      have found := (shortest_iff least.pos rounds.fits rounds.least).mpr least
      rw [← String.toList_inj, toList_text_finite negative least.pos, found,
        text_of_places tidy every nonempty, String.toList_ofList, String.toList_ofList]

/-! ### Decimals with few digits -/

theorem grid_unique {first last : Nat} {ten : Int} (fine : (2 : ℚ) ^ exponent < 10 ^ ten)
    (around : Around significand exponent (first * 10 ^ ten))
    (around' : Around significand exponent (last * 10 ^ ten)) : first = last := by
  have never {first last : Nat} (around : Around significand exponent (first * 10 ^ ten))
      (around' : Around significand exponent (last * 10 ^ ten)) : ¬ first < last := by
    intro below
    have step := grid_mono (Nat.succ_le_of_lt below) ten
    have near := around.sub_le around'
    push_cast at step
    linarith
  exact le_antisymm (not_lt.mp (never around' around)) (not_lt.mp (never around around'))

/-- A decimal that is as fine as the step of its double, and does not end in zero, is the shortest. -/
theorem shortest_of_fine (rounds : Rounds significand exponent decimal.value)
    (fine : (2 : ℚ) ^ exponent < 10 ^ decimal.exponent) (last : decimal.digits % 10 ≠ 0) :
    Shortest significand exponent decimal := by
  refine ⟨rounds.around, ?_, ?_⟩
  · intro digits around
    have coarse : (digits : ℚ) * 10 ^ (decimal.exponent + 1) =
        ((digits * 10 : Nat) : ℚ) * 10 ^ decimal.exponent := by
      rw [zpow_add_one₀ (by norm_num)]
      push_cast
      ring
    rw [coarse] at around
    have same := grid_unique fine around rounds.around
    omega
  · intro digits different around
    exact absurd (grid_unique fine around rounds.around) different

/-- The step of a double with all its bits is finer than a decimal of fifteen digits. -/
theorem fine_of_few (rounds : Rounds significand exponent decimal.value)
    (few : decimal.digits < 10 ^ 15) (full : leastNormal ≤ significand) :
    (2 : ℚ) ^ exponent < 10 ^ decimal.exponent := by
  have step := two_zpow_pos exponent
  have unit := ten_zpow_pos decimal.exponent
  have low := (mul_le_mul_of_nonneg_right (lowest_bounds significand exponent).1 step.le).trans
    rounds.around.bounds.1
  have bits : (2 : ℚ) ^ 52 ≤ significand := by
    rw [leastNormal] at full
    exact_mod_cast full
  have most : (decimal.digits : ℚ) + 1 ≤ 10 ^ 15 := by exact_mod_cast few
  rw [Numeral.value] at low
  by_contra coarse
  nlinarith

/-- Doubles from the three hundredth place on have all their bits. -/
theorem full_of_large (rounds : Rounds significand exponent decimal.value)
    (positive : 0 < decimal.digits) (near : -300 ≤ decimal.exponent) : leastNormal ≤ significand := by
  by_contra less
  have least := rounds.full.resolve_left less
  have high := rounds.around.bounds.2
  have most : (significand : ℚ) + 1 ≤ 2 ^ 52 := by
    rw [leastNormal, not_le] at less
    exact_mod_cast less
  have first : (1 : ℚ) ≤ decimal.digits := by exact_mod_cast positive
  have power : (2 : ℚ) ^ 52 * 2 ^ leastExponent < 10 ^ (-300 : Int) := by
    have large : (10 : ℚ) ^ 300 < 2 ^ 1022 := by
      calc (10 : ℚ) ^ 300 = (10 ^ 3) ^ 100 := pow_mul 10 3 100
        _ < (2 ^ 10) ^ 100 := by gcongr; norm_num
        _ = 2 ^ 1000 := (pow_mul 2 10 100).symm
        _ ≤ 2 ^ 1022 := pow_le_pow_right₀ (by norm_num) (by norm_num)
    rw [leastExponent, ← zpow_natCast, ← zpow_add₀ (by norm_num)]
    exact inv_strictAnti₀ (by positivity) large
  have unit : (10 : ℚ) ^ (-300 : Int) ≤ 10 ^ decimal.exponent :=
    zpow_le_zpow_right₀ (by norm_num) near
  have step := two_zpow_pos leastExponent
  rw [Numeral.value, least] at high
  nlinarith

theorem last_digit_ne_zero (every : Digits places) (nonempty : places ≠ [])
    (last : places.getLast? ≠ some '0') (whole : List Char) :
    natOfDigits (whole ++ places) % 10 ≠ 0 := by
  cases places using List.reverseRecOn with
  | nil => exact absurd rfl nonempty
  | append_singleton front char =>
    have different : char ≠ '0' := by simpa using last
    obtain ⟨below, shown⟩ := digitChar_of_isDigit (every char (by simp))
    rw [← List.append_assoc, natOfDigits_concat]
    intro zero
    have nought : char.toNat - '0'.toNat = 0 := by omega
    rw [nought] at shown
    exact different shown.symm

/-- **A decimal with few digits keeps its text**, as its double is finer than its last place. -/
theorem pointNumeral_of_shortNumeral (numeral : ShortNumeral text) : PointNumeral text := by
  obtain @⟨negative, whole, places, tidy, every, nonempty, last, few, near⟩ := numeral
  have odd := last_digit_ne_zero every nonempty last whole
  have positive : 0 < natOfDigits (whole ++ places) := by omega
  have long := (Nat.length_toDigits_le_iff (by decide) (by decide)).mpr few
  have more : 0 < (Nat.toDigits 10 (natOfDigits (whole ++ places))).length :=
    List.length_pos_iff.mpr Nat.toDigits_ne_nil
  obtain ⟨significand, exponent, rounds, found⟩ : ∃ significand exponent,
      Rounds significand exponent (Numeral.value ⟨natOfDigits (whole ++ places), -places.length⟩) ∧
        ofDecimal negative (natOfDigits (whole ++ places)) (-places.length) =
          if greatestExponent < exponent then .infinite negative
          else .finite negative significand exponent :=
    ofDecimal_rounds negative positive (by dsimp; omega) (by dsimp; omega)
  have fine := fine_of_few rounds few (full_of_large rounds positive (by dsimp; omega))
  have small : exponent < 0 := by
    by_contra large
    have power : (1 : ℚ) ≤ 2 ^ exponent := one_le_zpow₀ (by norm_num) (not_lt.mp large)
    have place : (10 : ℚ) ^ (-places.length : Int) ≤ 1 := zpow_le_one_of_nonpos₀ (by norm_num) (by omega)
    dsimp at fine
    linarith
  rw [if_neg (by rw [greatestExponent]; omega)] at found
  exact .intro tidy every nonempty ((double?_written tidy every negative).trans (congrArg _ found))
    (shortest_of_fine rounds fine odd)

end Registrar.Decimal
