import Mathlib
import Registrar.Decimal.Shortest

/-! Rounding to doubles, over the rationals. A ratio is rounded to a double that it lies around, and
the printer tests exactly whether a decimal lies around one. -/
namespace Registrar.Decimal
open Double

variable {significand numerator denominator : Nat} {exponent : Int} {number other : ℚ}

/-! ### The reals around a double -/

/-- Where the reals begin that round to a double, in steps of its last place: half a step below it,
and a quarter where the step below it is half as long. -/
def lowest (significand : Nat) (exponent : Int) : ℚ :=
  if significand = leastNormal ∧ leastExponent < exponent then significand - 1 / 4
  else significand - 1 / 2

/-- The number rounds to `significand · 2 ^ exponent`. Those at the ends do so where the significand
is even. -/
def Around (significand : Nat) (exponent : Int) (number : ℚ) : Prop :=
  if significand % 2 = 0 then
    lowest significand exponent * 2 ^ exponent ≤ number ∧
      number ≤ (significand + 1 / 2) * 2 ^ exponent
  else
    lowest significand exponent * 2 ^ exponent < number ∧
      number < (significand + 1 / 2) * 2 ^ exponent

theorem two_zpow_pos (exponent : Int) : (0 : ℚ) < 2 ^ exponent :=
  zpow_pos (by norm_num) exponent

theorem ten_zpow_pos (exponent : Int) : (0 : ℚ) < 10 ^ exponent :=
  zpow_pos (by norm_num) exponent

theorem cast_leastNormal : (leastNormal : ℚ) = 2 ^ 52 := by
  norm_num [leastNormal]

theorem lowest_bounds (significand : Nat) (exponent : Int) :
    (significand : ℚ) - 1 / 2 ≤ lowest significand exponent ∧
      lowest significand exponent ≤ significand - 1 / 4 := by
  rw [lowest]
  split <;> constructor <;> linarith

theorem Around.bounds (around : Around significand exponent number) :
    lowest significand exponent * 2 ^ exponent ≤ number ∧
      number ≤ (significand + 1 / 2) * 2 ^ exponent := by
  rw [Around] at around
  split at around
  · exact around
  · exact ⟨around.1.le, around.2.le⟩

theorem around_of_strict (above : lowest significand exponent * 2 ^ exponent < number)
    (below : number < (significand + 1 / 2) * 2 ^ exponent) : Around significand exponent number := by
  rw [Around]
  split
  · exact ⟨above.le, below.le⟩
  · exact ⟨above, below⟩

/-- A double lies around itself. -/
theorem around_self (significand : Nat) (exponent : Int) :
    Around significand exponent (significand * 2 ^ exponent) := by
  have step := two_zpow_pos exponent
  have low := (lowest_bounds significand exponent).2
  apply around_of_strict
  · apply mul_lt_mul_of_pos_right _ step
    linarith
  · apply mul_lt_mul_of_pos_right _ step
    linarith

/-- What lies between two numbers around a double lies around it. -/
theorem Around.between {middle : ℚ} (first : Around significand exponent number)
    (last : Around significand exponent other) (above : number ≤ middle) (below : middle ≤ other) :
    Around significand exponent middle := by
  rw [Around] at first last ⊢
  split at first
  · rename_i even
    rw [if_pos even] at last ⊢
    exact ⟨first.1.trans above, below.trans last.2⟩
  · rename_i odd
    rw [if_neg odd] at last ⊢
    exact ⟨first.1.trans_le above, below.trans_lt last.2⟩

/-- Two numbers around a double are at most one step apart. -/
theorem Around.sub_le (first : Around significand exponent number)
    (last : Around significand exponent other) : other - number ≤ 2 ^ exponent := by
  have step := two_zpow_pos exponent
  have low := mul_le_mul_of_nonneg_right (lowest_bounds significand exponent).1 step.le
  calc other - number ≤ (significand + 1 / 2) * 2 ^ exponent - (significand - 1 / 2) * 2 ^ exponent :=
        sub_le_sub last.bounds.2 (low.trans first.bounds.1)
    _ = 2 ^ exponent := by ring

theorem Around.pos (positive : 0 < significand) (around : Around significand exponent number) :
    0 < number := by
  have step := two_zpow_pos exponent
  have whole : (1 : ℚ) ≤ significand := by exact_mod_cast positive
  have low := (lowest_bounds significand exponent).1
  have start : 0 < lowest significand exponent := by linarith
  exact (mul_pos start step).trans_le around.bounds.1

/-! ### Powers with the exponent split by its sign -/

theorem pow_toNat {base : ℚ} (nonzero : base ≠ 0) (exponent : Int) :
    base ^ exponent.toNat = base ^ exponent * base ^ (-exponent).toNat := by
  rw [← zpow_natCast, ← zpow_natCast, ← zpow_add₀ nonzero]
  congr 1
  omega

theorem ratio_spec (number : Nat) (two ten : Int) :
    0 < (ratio number two ten).2 ∧ ((ratio number two ten).1 : ℚ) =
      number * 2 ^ two / 10 ^ ten * (ratio number two ten).2 := by
  have ofTwo : (2 : ℚ) ^ two.toNat = 2 ^ two * 2 ^ (-two).toNat := pow_toNat (by norm_num) two
  have ofTen : (10 : ℚ) ^ ten.toNat = 10 ^ ten * 10 ^ (-ten).toNat := pow_toNat (by norm_num) ten
  have unit := ten_zpow_pos ten
  simp only [ratio, Nat.shiftLeft_eq, one_mul, Nat.pow_eq]
  constructor
  · positivity
  · push_cast
    rw [ofTwo, ofTen]
    field_simp

theorem shifted_spec (positive : 0 < denominator) (numerator : Nat) (shift : Int) :
    0 < (shifted numerator denominator shift).2 ∧ ((shifted numerator denominator shift).1 : ℚ) =
      numerator / denominator * 2 ^ shift * (shifted numerator denominator shift).2 := by
  have ofTwo : (2 : ℚ) ^ shift.toNat = 2 ^ shift * 2 ^ (-shift).toNat := pow_toNat (by norm_num) shift
  have unit : (denominator : ℚ) ≠ 0 := by exact_mod_cast positive.ne'
  simp only [shifted, Nat.shiftLeft_eq]
  constructor
  · positivity
  · push_cast
    rw [ofTwo]
    field_simp

theorem interval_low (positive : 0 < significand) (exponent : Int) :
    ((interval significand exponent).low : ℚ) = 4 * lowest significand exponent := by
  simp only [interval, lowest, gt_iff_lt]
  split
  · rw [Nat.cast_sub (by omega)]
    push_cast
    ring
  · rw [Nat.cast_sub (by omega)]
    push_cast
    ring

/-- A ratio is compared with a whole number as the numbers it stands for are. -/
theorem compare_ratio (digits : Nat) {whole part : Nat} {bound unit : ℚ} (positive : 0 < part)
    (step : 0 < unit) (same : (whole : ℚ) = bound / unit * part) :
    (whole ≤ digits * part ↔ bound ≤ digits * unit) ∧
      (digits * part ≤ whole ↔ digits * unit ≤ bound) := by
  have below : (0 : ℚ) < part := by exact_mod_cast positive
  constructor
  · rw [← @Nat.cast_le ℚ, same, Nat.cast_mul, mul_le_mul_iff_left₀ below, div_le_iff₀ step]
  · rw [← @Nat.cast_le ℚ, same, Nat.cast_mul, mul_le_mul_iff_left₀ below, le_div_iff₀ step]

/-- The printer's test is exact. -/
theorem rounds_iff (positive : 0 < significand) (digits : Nat) (ten : Int) :
    rounds significand exponent digits ten = true ↔
      Around significand exponent (digits * 10 ^ ten) := by
  obtain ⟨lowPos, low⟩ := ratio_spec (interval significand exponent).low (exponent - 2) ten
  obtain ⟨highPos, high⟩ := ratio_spec (interval significand exponent).high (exponent - 2) ten
  have quarter : (2 : ℚ) ^ (exponent - 2) = 2 ^ exponent / 4 := by
    rw [zpow_sub₀ (by norm_num)]
    norm_num
  have bottom : ((interval significand exponent).low : ℚ) * 2 ^ (exponent - 2) =
      lowest significand exponent * 2 ^ exponent := by
    rw [interval_low positive, quarter]
    ring
  have top : ((interval significand exponent).high : ℚ) * 2 ^ (exponent - 2) =
      (significand + 1 / 2) * 2 ^ exponent := by
    simp only [interval, quarter]
    push_cast
    ring
  rw [bottom] at low
  rw [top] at high
  obtain ⟨lowLe, leLow⟩ := compare_ratio digits lowPos (ten_zpow_pos ten) low
  obtain ⟨highLe, leHigh⟩ := compare_ratio digits highPos (ten_zpow_pos ten) high
  have closed : (interval significand exponent).closed = decide (significand % 2 = 0) := rfl
  simp only [rounds, Around, closed, decide_eq_true_eq]
  split
  · rw [Bool.and_eq_true, decide_eq_true_eq, decide_eq_true_eq, lowLe, leHigh]
  · rw [Bool.and_eq_true, decide_eq_true_eq, decide_eq_true_eq,
      lt_iff_lt_of_le_iff_le leLow, lt_iff_lt_of_le_iff_le highLe]

/-! ### Rounding a ratio -/

/-- How a number rounds: to a double with all its bits, or to one at the least exponent. -/
structure Rounds (significand : Nat) (exponent : Int) (number : ℚ) : Prop where
  around : Around significand exponent number
  least : leastExponent ≤ exponent
  fits : significand < 2 * leastNormal
  full : leastNormal ≤ significand ∨ exponent = leastExponent

theorem roundDiv_bounds (positive : 0 < denominator) (numerator : Nat) :
    2 * numerator ≤ (2 * roundDiv numerator denominator + 1) * denominator ∧
      2 * roundDiv numerator denominator * denominator ≤ 2 * numerator + denominator ∧
      (roundDiv numerator denominator % 2 = 1 →
        2 * numerator < (2 * roundDiv numerator denominator + 1) * denominator ∧
          2 * roundDiv numerator denominator * denominator < 2 * numerator + denominator) := by
  have parts := Nat.div_add_mod numerator denominator
  have rest := Nat.mod_lt numerator positive
  simp only [roundDiv]
  generalize numerator / denominator = quotient at parts ⊢
  generalize numerator % denominator = remainder at parts rest ⊢
  subst parts
  have expand (count : Nat) : (2 * count + 1) * denominator = 2 * (denominator * count) + denominator := by
    ring
  have double (count : Nat) : 2 * count * denominator = 2 * (denominator * count) := by ring
  have next : denominator * (quotient + 1) = denominator * quotient + denominator := by ring
  split
  · rw [expand, double]
    omega
  · rw [expand, double, next]
    omega

/-- A whole number nearest to a number, and an even one where there are two. -/
structure NearestWhole (whole : Nat) (number : ℚ) : Prop where
  above : (whole : ℚ) - 1 / 2 ≤ number
  below : number ≤ whole + 1 / 2
  odd : whole % 2 = 1 → (whole : ℚ) - 1 / 2 < number ∧ number < whole + 1 / 2

theorem roundDiv_nearest (positive : 0 < denominator)
    (same : (numerator : ℚ) = number * denominator) :
    NearestWhole (roundDiv numerator denominator) number := by
  obtain ⟨above, below, strict⟩ := roundDiv_bounds positive numerator
  have unit : (0 : ℚ) < denominator := by exact_mod_cast positive
  generalize roundDiv numerator denominator = rounded at above below strict ⊢
  refine ⟨?_, ?_, ?_⟩
  · have scaled : (2 : ℚ) * rounded * denominator ≤ 2 * numerator + denominator := by
      exact_mod_cast below
    rw [same] at scaled
    nlinarith
  · have scaled : (2 : ℚ) * numerator ≤ (2 * rounded + 1) * denominator := by exact_mod_cast above
    rw [same] at scaled
    nlinarith
  · intro odd
    obtain ⟨above, below⟩ := strict odd
    have first : (2 : ℚ) * rounded * denominator < 2 * numerator + denominator := by
      exact_mod_cast below
    have last : (2 : ℚ) * numerator < (2 * rounded + 1) * denominator := by exact_mod_cast above
    rw [same] at first last
    constructor <;> nlinarith

/-- The power of two at which a ratio has all the bits of a significand before its point. -/
def fullExponent (numerator denominator : Nat) : Int :=
  let estimate := (numerator.log2 : Int) - denominator.log2 - 52
  let scaled := shifted numerator denominator (-estimate)
  if scaled.1 < leastNormal * scaled.2 then estimate - 1 else estimate

theorem estimate_bounds (positive : 0 < numerator) (below : 0 < denominator) :
    (2 : ℚ) ^ 51 < numerator / denominator *
        2 ^ (-((numerator.log2 : Int) - denominator.log2 - 52)) ∧
      (numerator : ℚ) / denominator * 2 ^ (-((numerator.log2 : Int) - denominator.log2 - 52)) <
        2 ^ 53 := by
  have unit : (0 : ℚ) < denominator := by exact_mod_cast below
  have least : (2 : ℚ) ^ numerator.log2 ≤ numerator := by
    exact_mod_cast Nat.log2_self_le positive.ne'
  have most : (numerator : ℚ) < 2 ^ (numerator.log2 + 1) := by exact_mod_cast Nat.lt_log2_self
  have least' : (2 : ℚ) ^ denominator.log2 ≤ denominator := by
    exact_mod_cast Nat.log2_self_le below.ne'
  have most' : (denominator : ℚ) < 2 ^ (denominator.log2 + 1) := by exact_mod_cast Nat.lt_log2_self
  generalize numerator.log2 = above at least most ⊢
  generalize denominator.log2 = under at least' most' ⊢
  have scale : (2 : ℚ) ^ (-((above : Int) - under - 52)) = 2 ^ under * 2 ^ 52 / 2 ^ above := by
    rw [neg_sub, sub_sub_eq_add_sub, zpow_sub₀ (by norm_num), zpow_natCast, zpow_add₀ (by norm_num),
      zpow_natCast]
    ring
  rw [pow_succ] at most most'
  rw [scale, div_mul_div_comm, lt_div_iff₀ (by positivity), div_lt_iff₀ (by positivity)]
  constructor
  · calc (2 : ℚ) ^ 51 * ((denominator : ℚ) * 2 ^ above) < 2 ^ 51 * (2 ^ under * 2 * 2 ^ above) := by gcongr
      _ ≤ 2 ^ 51 * (2 ^ under * 2 * (numerator : ℚ)) := by gcongr
      _ = (numerator : ℚ) * (2 ^ under * 2 ^ 52) := by ring
  · calc (numerator : ℚ) * (2 ^ under * 2 ^ 52) < 2 ^ above * 2 * (2 ^ under * 2 ^ 52) := by gcongr
      _ ≤ 2 ^ above * 2 * ((denominator : ℚ) * 2 ^ 52) := by gcongr
      _ = 2 ^ 53 * ((denominator : ℚ) * 2 ^ above) := by ring

theorem fullExponent_spec (positive : 0 < numerator) (below : 0 < denominator) :
    (2 : ℚ) ^ 52 ≤ numerator / denominator * 2 ^ (-fullExponent numerator denominator) ∧
      (numerator : ℚ) / denominator * 2 ^ (-fullExponent numerator denominator) < 2 ^ 53 := by
  obtain ⟨least, most⟩ := estimate_bounds positive below
  simp only [fullExponent]
  generalize (numerator.log2 : Int) - denominator.log2 - 52 = estimate at least most ⊢
  obtain ⟨scaledPos, same⟩ := shifted_spec below numerator (-estimate)
  have unit : (0 : ℚ) < (shifted numerator denominator (-estimate)).2 := by exact_mod_cast scaledPos
  have small : (shifted numerator denominator (-estimate)).1 <
      leastNormal * (shifted numerator denominator (-estimate)).2 ↔
        (numerator : ℚ) / denominator * 2 ^ (-estimate) < 2 ^ 52 := by
    rw [← @Nat.cast_lt ℚ, same, Nat.cast_mul, cast_leastNormal, mul_lt_mul_iff_left₀ unit]
  split
  · rename_i lower
    have double : (2 : ℚ) ^ (-(estimate - 1)) = 2 * 2 ^ (-estimate) := by
      rw [neg_sub, sub_eq_add_neg, zpow_add₀ (by norm_num), zpow_one]
    rw [double]
    constructor
    · linarith
    · linarith [small.mp lower]
  · rename_i higher
    exact ⟨not_lt.mp fun lower => higher (small.mpr lower), most⟩

/-- A ratio is rounded at the power of two at which it has all its bits, or at the least. -/
theorem ofRatio_eq (negative : Bool) (positive : 0 < numerator) (denominator : Nat) :
    ofRatio negative numerator denominator =
      let exponent := max (fullExponent numerator denominator) leastExponent
      let scaled := shifted numerator denominator (-exponent)
      let rounded := roundDiv scaled.1 scaled.2
      let carried := if rounded = 2 * leastNormal then (leastNormal, exponent + 1) else (rounded, exponent)
      if greatestExponent < carried.2 then .infinite negative
      else .finite negative carried.1 carried.2 := by
  rw [ofRatio, if_neg positive.ne']
  rfl

theorem around_of_nearest {rounded : Nat} {scaled : ℚ} (near : NearestWhole rounded scaled)
    (full : 2 ^ 52 ≤ scaled ∨ exponent = leastExponent) :
    Around rounded exponent (scaled * 2 ^ exponent) := by
  have step := two_zpow_pos exponent
  have low : lowest rounded exponent ≤ scaled ∧
      (rounded % 2 = 1 → lowest rounded exponent < scaled) := by
    rw [lowest]
    split
    · -- A power of two is rounded to from above only, unless the number is carried.
      rename_i power
      have whole : (rounded : ℚ) ≤ scaled := by
        rw [power.1, cast_leastNormal]
        exact full.resolve_right (by omega)
      constructor
      · linarith
      · intro
        linarith
    · exact ⟨near.above, fun odd => (near.odd odd).1⟩
  rw [Around]
  split
  · exact ⟨mul_le_mul_of_nonneg_right low.1 step.le, mul_le_mul_of_nonneg_right near.below step.le⟩
  · rename_i even
    have odd : rounded % 2 = 1 := by omega
    exact ⟨mul_lt_mul_of_pos_right (low.2 odd) step, mul_lt_mul_of_pos_right (near.odd odd).2 step⟩

/-- A significand that is rounded up beyond its bits is carried to the next power of two. -/
theorem around_of_carried {scaled : ℚ} (least : leastExponent ≤ exponent) (fits : scaled < 2 ^ 53)
    (near : NearestWhole (2 * leastNormal) scaled) :
    Around leastNormal (exponent + 1) (scaled * 2 ^ exponent) := by
  have step := two_zpow_pos exponent
  have double : (2 : ℚ) ^ (exponent + 1) = 2 * 2 ^ exponent := by
    rw [zpow_add₀ (by norm_num), zpow_one, mul_comm]
  have quarter : lowest leastNormal (exponent + 1) = leastNormal - 1 / 4 :=
    if_pos ⟨rfl, by omega⟩
  have above := near.above
  push_cast [cast_leastNormal] at above
  rw [Around, if_pos (by decide), quarter, double, cast_leastNormal]
  constructor <;> nlinarith

theorem rounds_of_scaled (least : leastExponent ≤ exponent) {rounded : Nat} {scaled : ℚ}
    (same : number = scaled * 2 ^ exponent) (fits : scaled < 2 ^ 53)
    (full : 2 ^ 52 ≤ scaled ∨ exponent = leastExponent) (near : NearestWhole rounded scaled) :
    if rounded = 2 * leastNormal then Rounds leastNormal (exponent + 1) number
    else Rounds rounded exponent number := by
  subst same
  split
  · rename_i carried
    subst carried
    exact ⟨around_of_carried least fits near, by omega, by decide, .inl le_rfl⟩
  · rename_i bounded
    have above := near.above
    have below := near.below
    have top : rounded ≤ 2 * leastNormal := by
      have bound : (rounded : ℚ) < (2 * leastNormal : Nat) + 1 := by
        push_cast [cast_leastNormal]
        linarith
      exact Nat.lt_succ_iff.mp (by exact_mod_cast bound)
    refine ⟨around_of_nearest near full, least, lt_of_le_of_ne top bounded, full.imp_left ?_⟩
    intro high
    have bound : (leastNormal : ℚ) < rounded + 1 := by
      rw [cast_leastNormal]
      linarith
    exact Nat.lt_succ_iff.mp (by exact_mod_cast bound)

/-- **A ratio rounds to a double that it lies around**, or overflows. -/
theorem ofRatio_rounds (negative : Bool) (positive : 0 < numerator) (below : 0 < denominator) :
    ∃ significand exponent, Rounds significand exponent (numerator / denominator) ∧
      ofRatio negative numerator denominator =
        if greatestExponent < exponent then .infinite negative
        else .finite negative significand exponent := by
  obtain ⟨most, fits⟩ := fullExponent_spec positive below
  rw [ofRatio_eq negative positive]
  dsimp only
  have least := le_max_right (fullExponent numerator denominator) leastExponent
  have above := le_max_left (fullExponent numerator denominator) leastExponent
  have which := max_choice (fullExponent numerator denominator) leastExponent
  generalize max (fullExponent numerator denominator) leastExponent = exponent at *
  obtain ⟨scaledPos, same⟩ := shifted_spec below numerator (-exponent)
  have unscaled : (numerator : ℚ) / denominator =
      numerator / denominator * 2 ^ (-exponent) * 2 ^ exponent := by
    rw [mul_assoc, ← zpow_add₀ (by norm_num), neg_add_cancel, zpow_zero, mul_one]
  have fewer : (numerator : ℚ) / denominator * 2 ^ (-exponent) < 2 ^ 53 := by
    refine lt_of_le_of_lt ?_ fits
    gcongr
    · norm_num
  have full : (2 : ℚ) ^ 52 ≤ numerator / denominator * 2 ^ (-exponent) ∨ exponent = leastExponent := by
    rcases which with here | here
    · exact .inl (here ▸ most)
    · exact .inr here
  have rounds := rounds_of_scaled least unscaled fewer full (roundDiv_nearest scaledPos same)
  split at rounds
  · rename_i carried
    exact ⟨_, _, rounds, by rw [if_pos carried]⟩
  · rename_i bounded
    exact ⟨_, _, rounds, by rw [if_neg bounded]⟩

theorem ratio_of_decimal (digits : Nat) (ten : Int) :
    ((digits * Nat.pow 10 ten.toNat : Nat) : ℚ) / (Nat.pow 10 (-ten).toNat : Nat) =
      digits * 10 ^ ten := by
  have ofTen : (10 : ℚ) ^ ten.toNat = 10 ^ ten * 10 ^ (-ten).toNat := pow_toNat (by norm_num) ten
  simp only [Nat.pow_eq]
  push_cast
  rw [ofTen]
  field_simp

/-- A decimal that was read as a double other than zero lies around it. -/
theorem rounds_of_ofDecimal {negative sign : Bool} {digits : Nat} {ten : Int}
    (reads : ofDecimal negative digits ten = .finite sign significand exponent)
    (nonzero : significand ≠ 0) :
    sign = negative ∧ Rounds significand exponent (digits * 10 ^ ten) := by
  have never : zero negative ≠ .finite sign significand exponent := by
    intro same
    cases same
    exact nonzero rfl
  rw [ofDecimal] at reads
  split at reads
  · exact absurd reads never
  · rename_i positive
    dsimp only at reads
    split at reads
    · cases reads
    · split at reads
      · exact absurd reads never
      · have top : 0 < digits * Nat.pow 10 ten.toNat :=
          Nat.mul_pos (Nat.pos_of_ne_zero positive) (Nat.pow_pos (by decide))
        have bottom : 0 < Nat.pow 10 (-ten).toNat := Nat.pow_pos (by decide)
        obtain ⟨rounded, power, rounds, found⟩ := ofRatio_rounds negative top bottom
        rw [found] at reads
        split at reads
        · cases reads
        · cases reads
          exact ⟨rfl, ratio_of_decimal digits ten ▸ rounds⟩

/-- A decimal of moderate size is rounded as the ratio that it is. -/
theorem ofDecimal_rounds {digits : Nat} {ten : Int} (negative : Bool) (positive : 0 < digits)
    (small : (Nat.toDigits 10 digits).length + ten ≤ 400)
    (large : -400 ≤ (Nat.toDigits 10 digits).length + ten) :
    ∃ significand exponent, Rounds significand exponent (digits * 10 ^ ten) ∧
      ofDecimal negative digits ten =
        if greatestExponent < exponent then .infinite negative
        else .finite negative significand exponent := by
  have top : 0 < digits * Nat.pow 10 ten.toNat := Nat.mul_pos positive (Nat.pow_pos (by decide))
  have bottom : 0 < Nat.pow 10 (-ten).toNat := Nat.pow_pos (by decide)
  obtain ⟨rounded, power, rounds, found⟩ := ofRatio_rounds negative top bottom
  refine ⟨rounded, power, ratio_of_decimal digits ten ▸ rounds, ?_⟩
  rw [ofDecimal, if_neg positive.ne']
  dsimp only
  rw [if_neg (not_lt.mpr small), if_neg (not_lt.mpr large), found]

end Registrar.Decimal
