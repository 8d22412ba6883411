import Mathlib
import Registrar.Proofs.Decimal.Digits
import Registrar.Proofs.Decimal.Rounding

/-! The shortest decimal of a double, said without how it is searched: it rounds to the double, no
decimal with a place fewer does, and of those with as many places none is nearer. -/
namespace Registrar.Decimal
open Double

variable {significand : Nat} {exponent ten : Int} {decimal found : Numeral}

def Numeral.value (decimal : Numeral) : ℚ :=
  decimal.digits * 10 ^ decimal.exponent

def distance (significand : Nat) (exponent : Int) (number : ℚ) : ℚ :=
  |number - significand * 2 ^ exponent|

/-- Of the multiples of a power of ten around a double, one that no other is nearer than, and the
greater where two are as near. -/
def Nearest (significand : Nat) (exponent : Int) (decimal : Numeral) : Prop :=
  ∀ digits : Nat, digits ≠ decimal.digits →
    Around significand exponent (digits * 10 ^ decimal.exponent) →
    distance significand exponent decimal.value <
        distance significand exponent (digits * 10 ^ decimal.exponent) ∨
      distance significand exponent decimal.value =
        distance significand exponent (digits * 10 ^ decimal.exponent) ∧ digits < decimal.digits

structure Shortest (significand : Nat) (exponent : Int) (decimal : Numeral) : Prop where
  around : Around significand exponent decimal.value
  coarser : ∀ digits : Nat, ¬ Around significand exponent (digits * 10 ^ (decimal.exponent + 1))
  nearest : Nearest significand exponent decimal

theorem Shortest.none_coarser (shortest : Shortest significand exponent decimal)
    (coarser : decimal.exponent < ten) (digits : Nat) :
    ¬ Around significand exponent (digits * 10 ^ ten) := by
  intro around
  obtain ⟨more, rfl⟩ : ∃ more : Nat, ten = decimal.exponent + 1 + more :=
    ⟨(ten - (decimal.exponent + 1)).toNat, by omega⟩
  apply shortest.coarser (digits * 10 ^ more)
  push_cast
  rwa [mul_assoc, mul_comm (10 ^ more : ℚ), ← zpow_natCast, ← zpow_add₀ (by norm_num)]

/-- There is only one shortest decimal. -/
theorem Shortest.unique (shortest : Shortest significand exponent decimal)
    (other : Shortest significand exponent found) : decimal = found := by
  obtain ⟨digits, ten⟩ := decimal
  obtain ⟨digits', ten'⟩ := found
  obtain rfl : ten = ten' := by
    rcases lt_trichotomy ten ten' with lower | same | higher
    · exact absurd other.around (shortest.none_coarser lower digits')
    · exact same
    · exact absurd shortest.around (other.none_coarser higher digits)
  by_contra different
  have apart : digits' ≠ digits := fun same => different (by rw [same])
  have first := shortest.nearest digits' apart other.around
  have last := other.nearest digits apart.symm shortest.around
  simp only [Numeral.value] at first last
  rcases first with near | ⟨same, below⟩
  · rcases last with near' | ⟨same', -⟩
    · exact absurd near (lt_asymm near')
    · exact absurd same' near.ne'
  · rcases last with near' | ⟨-, above⟩
    · exact absurd same near'.ne'
    · exact absurd below (lt_asymm above)

/-! ### The grid of a power of ten -/

/-- The multiple of a power of ten below a number, and whether the number is nearer to it than to the
next. -/
theorem grid_spec (significand : Nat) (exponent ten : Int) :
    let cut := ratio significand exponent ten
    ((cut.1 / cut.2 : Nat) : ℚ) * 10 ^ ten ≤ significand * 2 ^ exponent ∧
      (significand : ℚ) * 2 ^ exponent < ((cut.1 / cut.2 + 1 : Nat) : ℚ) * 10 ^ ten ∧
      (2 * (cut.1 % cut.2) < cut.2 ↔ (significand : ℚ) * 2 ^ exponent -
        (cut.1 / cut.2 : Nat) * 10 ^ ten < (cut.1 / cut.2 + 1 : Nat) * 10 ^ ten -
          significand * 2 ^ exponent) := by
  obtain ⟨positive, same⟩ := ratio_spec significand exponent ten
  dsimp only
  generalize ratio significand exponent ten = cut at positive same ⊢
  obtain ⟨number, unit⟩ := cut
  dsimp only at positive same ⊢
  have step := ten_zpow_pos ten
  have part : (0 : ℚ) < unit := by exact_mod_cast positive
  have whole : ((number / unit : Nat) : ℚ) * unit + (number % unit : Nat) = number := by
    exact_mod_cast Nat.div_add_mod' number unit
  have rest : ((number % unit : Nat) : ℚ) < unit := by exact_mod_cast Nat.mod_lt number positive
  have least : (0 : ℚ) ≤ (number % unit : Nat) := Nat.cast_nonneg _
  have scaled : (significand : ℚ) * 2 ^ exponent =
      ((number / unit : Nat) + (number % unit : Nat) / unit) * 10 ^ ten := by
    rw [← whole] at same
    field_simp at same ⊢
    linarith
  have half : 2 * (number % unit) < unit ↔ ((number % unit : Nat) : ℚ) / unit < 1 / 2 := by
    rw [div_lt_div_iff₀ part (by norm_num), ← @Nat.cast_lt ℚ]
    push_cast
    rw [one_mul, mul_comm]
  have between : (0 : ℚ) ≤ (number % unit : Nat) / unit ∧ ((number % unit : Nat) : ℚ) / unit < 1 :=
    ⟨div_nonneg least part.le, (div_lt_one part).mpr rest⟩
  rw [half, scaled]
  push_cast
  generalize ((number % unit : Nat) : ℚ) / unit = fraction at between ⊢
  generalize ((number / unit : Nat) : ℚ) = below
  refine ⟨?_, ?_, ?_⟩
  · nlinarith
  · nlinarith
  · constructor
    · intro less
      nlinarith
    · intro less
      nlinarith

variable {below : Nat}

theorem grid_mono {first last : Nat} (ordered : first ≤ last) (ten : Int) :
    (first : ℚ) * 10 ^ ten ≤ last * 10 ^ ten :=
  mul_le_mul_of_nonneg_right (by exact_mod_cast ordered) (ten_zpow_pos ten).le

theorem grid_strictMono {first last : Nat} (ordered : first < last) (ten : Int) :
    (first : ℚ) * 10 ^ ten < last * 10 ^ ten :=
  mul_lt_mul_of_pos_right (by exact_mod_cast ordered) (ten_zpow_pos ten)

theorem distance_of_le {number : ℚ} (lower : number ≤ significand * 2 ^ exponent) :
    distance significand exponent number = significand * 2 ^ exponent - number := by
  rw [distance, abs_of_nonpos (sub_nonpos.mpr lower), neg_sub]

theorem distance_of_ge {number : ℚ} (higher : (significand : ℚ) * 2 ^ exponent ≤ number) :
    distance significand exponent number = number - significand * 2 ^ exponent :=
  abs_of_nonneg (sub_nonneg.mpr higher)

/-- If any multiple is around the double, one of the two next to it is. -/
theorem around_neighbour {digits : Nat} (lower : (below : ℚ) * 10 ^ ten ≤ significand * 2 ^ exponent)
    (higher : (significand : ℚ) * 2 ^ exponent < (below + 1 : Nat) * 10 ^ ten)
    (around : Around significand exponent (digits * 10 ^ ten)) :
    digits ≤ below ∧ Around significand exponent (below * 10 ^ ten) ∨
      below + 1 ≤ digits ∧ Around significand exponent ((below + 1 : Nat) * 10 ^ ten) := by
  have itself := around_self significand exponent
  rcases Nat.lt_or_ge below digits with beyond | within
  · exact .inr ⟨beyond, itself.between around higher.le (grid_mono beyond ten)⟩
  · exact .inl ⟨within, around.between itself (grid_mono within ten) lower⟩

theorem nearest_below (lower : (below : ℚ) * 10 ^ ten ≤ significand * 2 ^ exponent)
    (higher : (significand : ℚ) * 2 ^ exponent < (below + 1 : Nat) * 10 ^ ten)
    (nearer : Around significand exponent ((below + 1 : Nat) * 10 ^ ten) →
      (significand : ℚ) * 2 ^ exponent - below * 10 ^ ten <
        (below + 1 : Nat) * 10 ^ ten - significand * 2 ^ exponent) :
    Nearest significand exponent ⟨below, ten⟩ := by
  intro digits different around
  dsimp only [Numeral.value] at *
  left
  rw [distance_of_le lower]
  rcases around_neighbour lower higher around with ⟨within, -⟩ | ⟨beyond, next⟩
  · have further := grid_strictMono (lt_of_le_of_ne within different) ten
    rw [distance_of_le (further.le.trans lower)]
    linarith
  · have further := grid_mono beyond ten
    rw [distance_of_ge (higher.le.trans further)]
    linarith [nearer next]

theorem nearest_above (lower : (below : ℚ) * 10 ^ ten ≤ significand * 2 ^ exponent)
    (higher : (significand : ℚ) * 2 ^ exponent < (below + 1 : Nat) * 10 ^ ten)
    (nearer : Around significand exponent (below * 10 ^ ten) →
      ((below + 1 : Nat) : ℚ) * 10 ^ ten - significand * 2 ^ exponent ≤
        significand * 2 ^ exponent - below * 10 ^ ten) :
    Nearest significand exponent ⟨below + 1, ten⟩ := by
  intro digits different around
  dsimp only [Numeral.value] at *
  rw [distance_of_ge higher.le]
  rcases around_neighbour lower higher around with ⟨within, next⟩ | ⟨beyond, -⟩
  · have further := grid_mono within ten
    rw [distance_of_le (further.trans lower)]
    have close : ((below + 1 : Nat) : ℚ) * 10 ^ ten - significand * 2 ^ exponent ≤
        significand * 2 ^ exponent - digits * 10 ^ ten := by
      linarith [nearer next]
    exact (lt_or_eq_of_le close).imp_right fun same => ⟨same, Nat.lt_succ_of_le within⟩
  · have further := grid_strictMono (lt_of_le_of_ne beyond different.symm) ten
    rw [distance_of_ge (higher.le.trans further.le)]
    left
    linarith

theorem onGrid?_some (positive : 0 < significand)
    (found : onGrid? significand exponent ten = some decimal) :
    decimal.exponent = ten ∧ Around significand exponent decimal.value ∧
      Nearest significand exponent decimal := by
  obtain ⟨lower, higher, half⟩ := grid_spec significand exponent ten
  unfold onGrid? at found
  dsimp only at lower higher half found
  generalize ratio significand exponent ten = cut at *
  split at found
  · rename_i fits
    cases found
    simp only [Bool.and_eq_true, Bool.or_eq_true, Bool.not_eq_true', decide_eq_true_eq,
      rounds_iff positive] at fits
    refine ⟨rfl, fits.1, nearest_below lower higher ?_⟩
    intro next
    rcases fits.2 with none | near
    · rw [(rounds_iff positive _ _).mpr next] at none
      cases none
    · exact half.mp near
  · rename_i unfit
    split at found
    · rename_i fits
      cases found
      refine ⟨rfl, (rounds_iff positive _ _).mp fits, nearest_above lower higher ?_⟩
      intro next
      by_contra near
      apply unfit
      rw [(rounds_iff positive _ _).mpr next, Bool.true_and, Bool.or_eq_true, decide_eq_true_eq]
      exact .inr (half.mpr (not_le.mp near))
    · cases found

theorem onGrid?_none (positive : 0 < significand) (none : onGrid? significand exponent ten = none)
    (digits : Nat) : ¬ Around significand exponent (digits * 10 ^ ten) := by
  intro around
  obtain ⟨lower, higher, -⟩ := grid_spec significand exponent ten
  unfold onGrid? at none
  dsimp only at lower higher none
  generalize ratio significand exponent ten = cut at *
  split at none
  · cases none
  · rename_i unfit
    split at none
    · cases none
    · rename_i unfit'
      have refused : ¬ Around significand exponent ((cut.1 / cut.2 + 1 : Nat) * 10 ^ ten) :=
        fun next => unfit' ((rounds_iff positive _ _).mpr next)
      rcases around_neighbour lower higher around with ⟨-, next⟩ | ⟨-, next⟩
      · apply unfit
        rw [Bool.not_eq_true] at unfit'
        rw [(rounds_iff positive _ _).mpr next, unfit']
        rfl
      · exact refused next

/-! ### The search from coarse grids to fine ones -/

theorem search_some {more : Nat} {top : Int}
    (found : search significand exponent more top = some decimal) :
    ∃ ten ≤ top, onGrid? significand exponent ten = some decimal ∧
      ∀ coarser, ten < coarser → coarser ≤ top → onGrid? significand exponent coarser = none := by
  induction more generalizing top with
  | zero => cases found
  | succ more ih =>
    rw [search] at found
    split at found
    · rename_i here
      cases found
      exact ⟨top, le_rfl, here, by omega⟩
    · rename_i none
      obtain ⟨ten, within, here, above⟩ := ih found
      refine ⟨ten, by omega, here, ?_⟩
      intro coarser beyond inside
      rcases eq_or_lt_of_le inside with rfl | lower
      · exact none
      · exact above coarser beyond (by omega)

theorem exists_search (more : Nat) {top : Int} (given : onGrid? significand exponent ten ≠ none)
    (within : ten ≤ top) (near : top < ten + more) :
    ∃ decimal, search significand exponent more top = some decimal := by
  induction more generalizing top with
  | zero => omega
  | succ more ih =>
    rw [search]
    split
    · exact ⟨_, rfl⟩
    · rename_i none
      apply ih
      · rcases eq_or_lt_of_le within with rfl | lower
        · exact absurd none given
        · omega
      · push_cast at near
        omega

/-- Where the search starts. -/
def start (significand : Nat) (exponent : Int) : Int :=
  if 0 ≤ exponent then (Nat.toDigits 10 (ratio significand exponent 0).1).length
  else (Nat.toDigits 10 significand).length - (-exponent).toNat * 30102 / 100000

theorem shortest_eq (significand : Nat) (exponent : Int) : shortest significand exponent =
    (search significand exponent 24 (start significand exponent)).getD ⟨significand, 0⟩ := rfl

theorem length_toDigits_bounds {number : Nat} (positive : 0 < number) :
    number < 10 ^ (Nat.toDigits 10 number).length ∧
      10 ^ ((Nat.toDigits 10 number).length - 1) ≤ number := by
  have some : 0 < (Nat.toDigits 10 number).length := List.length_pos_iff.mpr Nat.toDigits_ne_nil
  refine ⟨(Nat.length_toDigits_le_iff (by decide) some).mp le_rfl, ?_⟩
  by_contra less
  rcases Nat.eq_zero_or_pos ((Nat.toDigits 10 number).length - 1) with single | more
  · rw [single] at less
    omega
  · have short := (Nat.length_toDigits_le_iff (by decide) more).mpr (not_le.mp less)
    omega

/-- The decimal logarithm of a power of two, estimated by a fraction of its exponent. -/
theorem pow_two_bounds {power : Nat} (small : power ≤ 1074) :
    10 ^ (power * 30102 / 100000) ≤ 2 ^ power ∧ 2 ^ power ≤ 10 ^ (power * 30102 / 100000 + 2) := by
  have first : 10 ^ 59 ≤ 2 ^ 196 := by norm_num
  have last : 2 ^ 93 ≤ 10 ^ 28 := by norm_num
  generalize estimated : power * 30102 / 100000 = estimate
  constructor
  · apply (Nat.pow_le_pow_iff_left (n := 196) (by decide)).mp
    calc (10 ^ estimate) ^ 196 = 10 ^ (estimate * 196) := (pow_mul _ _ _).symm
      _ ≤ 10 ^ (59 * power) := Nat.pow_le_pow_right (by decide) (by omega)
      _ = (10 ^ 59) ^ power := pow_mul _ _ _
      _ ≤ (2 ^ 196) ^ power := Nat.pow_le_pow_left first _
      _ = (2 ^ power) ^ 196 := pow_right_comm _ _ _
  · apply (Nat.pow_le_pow_iff_left (n := 93) (by decide)).mp
    calc (2 ^ power) ^ 93 = (2 ^ 93) ^ power := pow_right_comm _ _ _
      _ ≤ (10 ^ 28) ^ power := Nat.pow_le_pow_left last _
      _ = 10 ^ (28 * power) := (pow_mul _ _ _).symm
      _ ≤ 10 ^ ((estimate + 2) * 93) := Nat.pow_le_pow_right (by decide) (by omega)
      _ = (10 ^ (estimate + 2)) ^ 93 := pow_mul _ _ _

theorem start_bounds (positive : 0 < significand) (least : leastExponent ≤ exponent) :
    (significand : ℚ) * 2 ^ exponent < 10 ^ start significand exponent ∧
      (10 : ℚ) ^ (start significand exponent - 3) ≤ significand * 2 ^ exponent := by
  rw [start]
  split
  · rename_i whole
    obtain ⟨power, rfl⟩ := Int.eq_ofNat_of_zero_le whole
    have number : (ratio significand power 0).1 = significand * 2 ^ power := by
      simp [ratio, Nat.shiftLeft_eq]
    rw [number]
    obtain ⟨most, fewest⟩ := length_toDigits_bounds (Nat.mul_pos positive (Nat.two_pow_pos power))
    generalize (Nat.toDigits 10 (significand * 2 ^ power)).length = count at most fewest ⊢
    rw [zpow_natCast, zpow_natCast]
    constructor
    · exact_mod_cast most
    · calc (10 : ℚ) ^ ((count : Int) - 3) ≤ 10 ^ ((count - 1 : Nat) : Int) :=
            zpow_le_zpow_right₀ (by norm_num) (by omega)
        _ = (10 ^ (count - 1) : Nat) := by rw [zpow_natCast]; push_cast; rfl
        _ ≤ significand * 2 ^ power := by exact_mod_cast fewest
  · rename_i part
    obtain ⟨power, rfl⟩ : ∃ power : Nat, exponent = -(power : Int) := ⟨(-exponent).toNat, by omega⟩
    have small : power ≤ 1074 := by
      rw [leastExponent] at least
      omega
    obtain ⟨most, fewest⟩ := length_toDigits_bounds positive
    obtain ⟨first, last⟩ := pow_two_bounds small
    have estimate : ((-(-(power : Int))).toNat : Int) * 30102 / 100000 =
        (power * 30102 / 100000 : Nat) := by
      rw [neg_neg, Int.toNat_natCast]
      push_cast
      rfl
    rw [estimate]
    generalize (Nat.toDigits 10 significand).length = count at most fewest ⊢
    generalize power * 30102 / 100000 = estimate at first last ⊢
    have below : (significand : ℚ) < 10 ^ count := by exact_mod_cast most
    have above : (10 : ℚ) ^ (count - 1) ≤ significand := by exact_mod_cast fewest
    have first : (10 : ℚ) ^ estimate ≤ 2 ^ power := by exact_mod_cast first
    have last : (2 : ℚ) ^ power ≤ 10 ^ (estimate + 2) := by exact_mod_cast last
    rw [zpow_neg, zpow_natCast, ← div_eq_mul_inv]
    constructor
    · rw [zpow_sub₀ (by norm_num), zpow_natCast, zpow_natCast]
      exact div_lt_div₀ below first (by positivity) (by positivity)
    · calc (10 : ℚ) ^ ((count : Int) - estimate - 3) ≤
            10 ^ (((count - 1 : Nat) : Int) - (estimate + 2 : Nat)) :=
            zpow_le_zpow_right₀ (by norm_num) (by omega)
        _ = 10 ^ (count - 1) / 10 ^ (estimate + 2) := by
            rw [zpow_sub₀ (by norm_num), zpow_natCast, zpow_natCast]
        _ ≤ significand / 2 ^ power := div_le_div₀ (by positivity) above (by positivity) last

theorem not_around_coarse (positive : 0 < significand) (least : leastExponent ≤ exponent)
    (coarse : start significand exponent < ten) (digits : Nat) :
    ¬ Around significand exponent (digits * 10 ^ ten) := by
  intro around
  obtain ⟨below, -⟩ := start_bounds positive least
  have unit := ten_zpow_pos ten
  have step := two_zpow_pos exponent
  have whole : (1 : ℚ) ≤ significand := by exact_mod_cast positive
  have some : (1 : ℚ) ≤ digits := by
    have nonzero : (0 : ℚ) < digits := pos_of_mul_pos_left (around.pos positive) unit.le
    exact_mod_cast nonzero
  have power : (10 : ℚ) ^ (start significand exponent) * 10 ≤ 10 ^ ten := by
    rw [← zpow_add_one₀ (by norm_num)]
    exact zpow_le_zpow_right₀ (by norm_num) coarse
  have high := around.bounds.2
  nlinarith

theorem exists_around_fine (significand : Nat) (fine : (10 : ℚ) ^ ten * 4 ≤ 2 ^ exponent) :
    ∃ digits : Nat, Around significand exponent (digits * 10 ^ ten) := by
  obtain ⟨lower, higher, -⟩ := grid_spec significand exponent ten
  refine ⟨_, around_of_strict ?_ (lower.trans_lt ?_)⟩
  · have low := mul_le_mul_of_nonneg_right (lowest_bounds significand exponent).2
      (two_zpow_pos exponent).le
    push_cast at higher
    linarith
  · have step := two_zpow_pos exponent
    linarith

/-- **The printer finds the shortest decimal.** -/
theorem shortest_spec (positive : 0 < significand) (fits : significand < 2 * leastNormal)
    (least : leastExponent ≤ exponent) :
    Shortest significand exponent (shortest significand exponent) := by
  obtain ⟨-, above⟩ := start_bounds positive least
  -- Twenty places below the start the grid is finer than a quarter of the step, so that it has a
  -- multiple around the double.
  have fine : (10 : ℚ) ^ (start significand exponent - 20) * 4 ≤ 2 ^ exponent := by
    have bits : (significand : ℚ) ≤ 2 ^ 53 := by
      rw [leastNormal] at fits
      exact_mod_cast fits.le
    have scaled : (10 : ℚ) ^ (start significand exponent - 3) =
        10 ^ (start significand exponent - 20) * 10 ^ 17 := by
      rw [← zpow_natCast, ← zpow_add₀ (by norm_num)]
      congr 1
      push_cast
      ring
    have step := two_zpow_pos exponent
    rw [scaled] at above
    nlinarith
  obtain ⟨digits, around⟩ := exists_around_fine significand fine
  have given : onGrid? significand exponent (start significand exponent - 20) ≠ none :=
    fun none => onGrid?_none positive none digits around
  obtain ⟨decimal, found⟩ : ∃ decimal,
      search significand exponent 24 (start significand exponent) = some decimal :=
    exists_search 24 given (by omega) (by omega)
  obtain ⟨ten, within, here, coarser⟩ := search_some found
  obtain ⟨same, around, nearest⟩ := onGrid?_some positive here
  rw [shortest_eq, found, Option.getD_some]
  refine ⟨around, ?_, nearest⟩
  rw [same]
  rcases eq_or_lt_of_le within with rfl | lower
  · -- The grid above the first was never tried, but all its multiples are too far away.
    exact not_around_coarse positive least (by omega)
  · exact onGrid?_none positive (coarser _ (by omega) lower)

theorem shortest_iff (positive : 0 < significand) (fits : significand < 2 * leastNormal)
    (least : leastExponent ≤ exponent) :
    shortest significand exponent = decimal ↔ Shortest significand exponent decimal :=
  ⟨fun same => same ▸ shortest_spec positive fits least,
    fun shortest => (shortest_spec positive fits least).unique shortest⟩

end Registrar.Decimal
