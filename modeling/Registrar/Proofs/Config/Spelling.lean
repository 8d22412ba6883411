import Mathlib
import Registrar.Config.Environment
import Registrar.Proofs.Decimal.Written
import Registrar.Proofs.Text.Strip

/-! The text of a variable and the text of the setting it gives. A word is read as a number where it
looks like one, and what is printed back is the word itself where that is how the number is written. -/
namespace Registrar.Config
open Decimal

variable {text : List Char} {spelled : String} {char : Char}

/-! ### Words -/

def isWordChar (char : Char) : Bool :=
  char.isAlphanum || char == '.' || char == '_' || char == '+' || char == '-' || char == '/'

/-- Letters, digits, points, underscores, signs and slashes. -/
def Word (text : String) : Prop :=
  ∀ char ∈ text.toList, isWordChar char = true

theorem toNat_lt_of_isWordChar (word : isWordChar char = true) : char.toNat < 128 := by
  simp only [isWordChar, Char.isAlphanum, Char.isAlpha, Char.isUpper, Char.isLower, Char.isDigit,
    Bool.or_eq_true, Bool.and_eq_true, decide_eq_true_eq, beq_iff_eq, ge_iff_le,
    UInt32.le_iff_toNat_le, Char.reduceVal, UInt32.reduceToNat] at word
  rcases word with (((((letter | rfl) | rfl) | rfl) | rfl) | rfl)
  · have bound : char.toNat = char.val.toNat := rfl
    omega
  all_goals decide

/-- A character of a word is neither a blank nor punctuation of the grammar. -/
theorem plain_of_isWordChar (word : isWordChar char = true) :
    Environment.isSpace char = false ∧ Environment.isSeparator char = false ∧
      Text.isBlank char = false ∧ char ≠ '\x22' ∧ char ≠ '\x27' := by
  have each : ∀ code < 128, isWordChar (Char.ofNat code) = true →
      Environment.isSpace (Char.ofNat code) = false ∧
        Environment.isSeparator (Char.ofNat code) = false ∧
        Text.isBlank (Char.ofNat code) = false ∧ Char.ofNat code ≠ '\x22' ∧
        Char.ofNat code ≠ '\x27' := by
    decide
  have here := each char.toNat (toNat_lt_of_isWordChar word)
  rw [Char.ofNat_toNat] at here
  exact here word

/-! ### Numbers among words -/

/-- How a bare text is printed back: a decimal with a point as its double, a whole number that fits
in 64 bits as that number, and anything else as it stands. -/
inductive Spelling (text : List Char) : String → Prop
  | point {value : Double} (point : '.' ∈ text) (reads : double? text = some value) :
      Spelling text value.text
  | whole {value : Int} (reads : int? text = some value) (least : -2 ^ 63 ≤ value)
      (most : value < 2 ^ 64) : Spelling text (toString value)
  | word (noPoint : '.' ∈ text → double? text = none)
      (noWhole : ∀ value, int? text = some value → value < -2 ^ 63 ∨ 2 ^ 64 ≤ value) :
      Spelling text (String.ofList text)

/-- What is printed back as it stands: what is read as no number, and numbers as they are written. -/
inductive Kept (text : List Char) : Prop
  | word (noPoint : '.' ∈ text → double? text = none)
      (noWhole : ∀ value, int? text = some value → value < -2 ^ 63 ∨ 2 ^ 64 ≤ value)
  | whole (numeral : WholeNumeral text)
  | point (numeral : PointNumeral text)

theorem point_mem_of_pointNumeral (numeral : PointNumeral text) : '.' ∈ text := by
  cases numeral with
  | @intro negative => cases negative <;> simp [signed]

theorem no_point_of_wholeNumeral (numeral : WholeNumeral text) : '.' ∉ text := by
  cases numeral with
  | plain tidy => exact no_point_of_digits tidy.each
  | negative tidy => simpa using no_point_of_digits tidy.each

theorem Spelling.kept_iff (spelling : Spelling text spelled) :
    spelled = String.ofList text ↔ Kept text := by
  cases spelling with
  | point point reads =>
    rw [text_eq_iff point reads]
    refine ⟨.point, ?_⟩
    rintro (⟨noPoint, -⟩ | numeral | numeral)
    · cases (noPoint point).symm.trans reads
    · exact absurd point (no_point_of_wholeNumeral numeral)
    · exact numeral
  | whole reads least most =>
    rw [toString_eq_iff (whole_of_int? reads)]
    refine ⟨.whole, ?_⟩
    rintro (⟨-, noWhole⟩ | numeral | numeral)
    · have far := noWhole _ reads
      omega
    · exact numeral
    · exact absurd (point_mem_of_pointNumeral numeral) (whole_of_int? reads).no_point
  | word noPoint noWhole => exact ⟨fun _ => .word noPoint noWhole, fun _ => rfl⟩

theorem kept_of_shortNumeral (numeral : ShortNumeral text) : Kept text :=
  .point (pointNumeral_of_shortNumeral numeral)

/-- A whole number is negative or zero where a minus sign comes first, and else no less than zero. -/
theorem sign_of_whole {value : Int} (whole : Whole text value) :
    (∀ rest, text = '-' :: rest → value ≤ 0) ∧ ((∀ rest, text ≠ '-' :: rest) → 0 ≤ value) := by
  cases whole with
  | minus nonempty every =>
    exact ⟨fun _ _ => by omega, fun unsigned => absurd rfl (unsigned _)⟩
  | plus nonempty every =>
    exact ⟨fun _ same => (nomatch same), fun _ => Int.natCast_nonneg _⟩
  | bare nonempty every =>
    refine ⟨?_, fun _ => Int.natCast_nonneg _⟩
    rintro rest rfl
    exact absurd every (not_digits_sign rfl)

/-- A bare text is printed back as its spelling. -/
theorem spelling_bareScalar (text : List Char) :
    Spelling text (Environment.bareScalar text).plain := by
  unfold Environment.bareScalar
  dsimp only
  split
  · rename_i value real
    split at real
    · rename_i point
      exact .point point real
    · cases real
  · rename_i value real unsigned
    split at unsigned
    · cases unsigned
    · rename_i bare
      obtain ⟨fits, small⟩ := Option.filter_eq_some_iff.mp unsigned
      obtain ⟨whole, reads, same⟩ := Option.map_eq_some_iff.mp fits
      have least := (sign_of_whole (whole_of_int? reads)).2 fun rest same => bare rest same
      obtain ⟨number, rfl⟩ := Int.eq_ofNat_of_zero_le least
      obtain rfl : number = value := same
      have most : number ≤ Environment.greatestUnsigned := by simpa using small
      rw [Environment.greatestUnsigned] at most
      exact .whole reads (by omega) (by omega)
  · rename_i value real unsigned signed
    obtain ⟨reads, fits⟩ := Option.filter_eq_some_iff.mp signed
    rw [Bool.and_eq_true, decide_eq_true_eq, decide_eq_true_eq] at fits
    exact .whole reads (by omega) (by omega)
  · rename_i real unsigned signed
    refine .word ?_ ?_
    · intro point
      rwa [if_pos point] at real
    · intro value reads
      rw [reads, Option.filter_eq_none_iff] at signed
      have far := signed value rfl
      simp only [Bool.and_eq_true, decide_eq_true_eq, not_and, not_lt] at far
      obtain ⟨negative, positive⟩ := sign_of_whole (whole_of_int? reads)
      split at unsigned
      · have below := negative _ rfl
        omega
      · rename_i bare
        have least := positive fun rest same => bare rest same
        rw [reads, Option.map_some, Option.filter_eq_none_iff] at unsigned
        have large := unsigned value.toNat rfl
        rw [decide_eq_true_eq, Environment.greatestUnsigned] at large
        omega

/-! ### Reading a word -/

def startsNumber (char : Char) : Bool :=
  isDigit char || char == '+' || char == '-' || char == '.'

/-- A text that starts with a letter is no number. -/
theorem spelling_of_letter (char : Char) (letter : startsNumber char = false) (rest : List Char) :
    Spelling (char :: rest) (String.ofList (char :: rest)) := by
  simp only [startsNumber, Bool.or_eq_false_iff, beq_eq_false_iff_ne] at letter
  obtain ⟨⟨⟨stray, plus⟩, minus⟩, point⟩ := letter
  refine .word ?_ ?_
  · intro _
    have signless : splitSign (char :: rest) = (false, char :: rest) := by
      rw [splitSign.eq_def]
      split
      · rename_i same
        cases same
        exact absurd rfl minus
      · rename_i same
        cases same
        exact absurd rfl plus
      · rfl
    have none : (char :: rest).takeWhile isDigit = [] := List.takeWhile_cons_of_neg (by simp [stray])
    have all : (char :: rest).dropWhile isDigit = char :: rest :=
      List.dropWhile_cons_of_neg (by simp [stray])
    simp only [double?, signless, none, all, List.isEmpty_nil]
    split
    · rename_i same
      cases same
      exact absurd rfl point
    · rfl
  · intro value reads
    cases whole_of_int? reads with
    | minus => exact absurd rfl minus
    | plus => exact absurd rfl plus
    | bare _ every => exact absurd every (not_digits_sign stray)

theorem skipSpace_word (word : ∀ char ∈ text, isWordChar char = true) :
    Environment.skipSpace text = text :=
  Text.dropWhile_of_head fun char first =>
    (plain_of_isWordChar (word char (List.mem_of_mem_head? first))).1

/-- What the grammar reads of a word: a truth value that the word starts with, or all of it. -/
theorem value_word (depth : Nat) (word : ∀ char ∈ text, isWordChar char = true) :
    ∃ scalar rest, Environment.value (depth + 1) text = some (.scalar .environment scalar, rest) ∧
      (rest = [] → Spelling text scalar.plain) ∧ (rest ≠ [] → Spelling text (String.ofList text)) := by
  have plain := fun char member => plain_of_isWordChar (word char member)
  rw [Environment.value]
  simp only [skipSpace_word word, Option.bind_eq_bind]
  split
  · -- A truth value is printed as the letters it was read from; with more behind it, it is not read.
    rename_i rest
    have left : Environment.skipSpace rest = rest :=
      skipSpace_word fun char member => word char (by simp [member])
    have spelling := spelling_of_letter 't' rfl ('r' :: 'u' :: 'e' :: rest)
    refine ⟨.boolean true, rest, by rw [Option.bind_some, left]; rfl, ?_, fun _ => spelling⟩
    rintro rfl
    exact spelling
  · rename_i rest
    have left : Environment.skipSpace rest = rest :=
      skipSpace_word fun char member => word char (by simp [member])
    have spelling := spelling_of_letter 'f' rfl ('a' :: 'l' :: 's' :: 'e' :: rest)
    refine ⟨.boolean false, rest, by rw [Option.bind_some, left]; rfl, ?_, fun _ => spelling⟩
    rintro rfl
    exact spelling
  · exact absurd (plain _ List.mem_cons_self).2.1 (by decide)
  · exact absurd (plain _ List.mem_cons_self).2.1 (by decide)
  · exact absurd rfl (plain _ List.mem_cons_self).2.2.2.1
  · exact absurd rfl (plain _ List.mem_cons_self).2.2.2.2
  · have bare : ∀ char ∈ text, (!Environment.isSeparator char) = true := by
      intro char member
      rw [(plain char member).2.1]
      rfl
    have strips : Text.Strips Text.isBlank text text :=
      ⟨⟨[], [], by simp, by simp, by simp⟩,
        fun char first => (plain char (List.mem_of_mem_head? first)).2.2.1,
        fun char last => (plain char (List.mem_of_mem_getLast? last)).2.2.1⟩
    refine ⟨Environment.bareScalar text, [], ?_, fun _ => spelling_bareScalar text,
      fun more => absurd rfl more⟩
    rw [List.takeWhile_eq_self_iff.mpr bare, List.dropWhile_eq_nil_iff.mpr bare, Text.trim,
      Text.trimWith_of_strips strips]
    rfl

/-- A word is read as a scalar that is printed back as its spelling. -/
theorem read_word {text : String} (word : Word text) : ∃ scalar,
    Environment.read text = .scalar .environment scalar ∧ Spelling text.toList scalar.plain := by
  obtain ⟨scalar, rest, read, all, part⟩ := value_word (2 * text.length + 2) word
  rw [Environment.read, read]
  cases rest with
  | nil => exact ⟨scalar, rfl, all rfl⟩
  | cons char rest =>
    have spelling := part (by simp)
    rw [String.ofList_toList] at spelling
    exact ⟨.text text, rfl, spelling⟩

end Registrar.Config
