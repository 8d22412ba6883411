import Mathlib.Data.List.Infix
import Registrar.Proofs.Text.Encoding
import Registrar.Text.Blank
import Registrar.Text.Occurrence

/-! The ASCII part of a text. Decoding turns each run of bytes outside ASCII into a run of characters
outside ASCII, never into nothing and never at the cost of the ASCII bytes beside it, however broken
the encoding is. An ASCII marker stands in a text just where it stands in the skeleton. -/
namespace Registrar.Text

def isAscii (char : Char) : Bool :=
  char.toNat < 0x80

/-- Stands for characters outside ASCII. -/
def separator : Char := '\uFFFD'

/-- The skeleton of a text, where `within` tells whether it goes on with a run that began before. -/
def skeletonFrom : Bool → List Char → List Char
  | _, [] => []
  | within, char :: text =>
    if isAscii char then char :: skeletonFrom false text
    else if within then skeletonFrom true text
    else separator :: skeletonFrom true text

/-- A text with one separator in the place of each longest run of characters outside ASCII. -/
def skeleton (text : List Char) : List Char :=
  skeletonFrom false text

/-- Bytes as a text: each is the character of its number. -/
def ofBytes (bytes : List UInt8) : List Char :=
  bytes.map fun byte => Char.ofNat byte.toNat

/-- A text in two parts, the second of which begins with the marker: what comes before the marker,
and what follows it. -/
def siteIn (marker : List Char) (parts : List Char × List Char) : Option (List Char × List Char) :=
  if marker.isPrefixOf parts.2 then some (parts.1, parts.2.drop marker.length) else none

/-- Where the marker stands in a text, from left to right, also where it overlaps itself. -/
def sites (marker text : List Char) : List (List Char × List Char) :=
  (text.inits.zip text.tails).filterMap (siteIn marker)

/-- The texts have the same skeleton, whether or not a run comes before them. -/
def SameSkeleton (text other : List Char) : Prop :=
  ∀ within, skeletonFrom within text = skeletonFrom within other

variable {char : Char} {text other marker : List Char} {within : Bool}

@[simp]
theorem skeletonFrom_nil (within : Bool) : skeletonFrom within [] = [] := rfl

theorem skeletonFrom_ascii (ascii : isAscii char = true) (text : List Char) :
    skeletonFrom within (char :: text) = char :: skeletonFrom false text := by
  rw [skeletonFrom, if_pos ascii]

theorem skeletonFrom_false (outside : isAscii char = false) (text : List Char) :
    skeletonFrom false (char :: text) = separator :: skeletonFrom true text := by
  simp [skeletonFrom, outside]

theorem skeletonFrom_true (outside : isAscii char = false) (text : List Char) :
    skeletonFrom true (char :: text) = skeletonFrom true text := by
  simp [skeletonFrom, outside]

theorem SameSkeleton.trans {third : List Char} (left : SameSkeleton text other)
    (right : SameSkeleton other third) : SameSkeleton text third :=
  fun within => (left within).trans (right within)

theorem SameSkeleton.append (same : SameSkeleton text other) (front : List Char) :
    SameSkeleton (front ++ text) (front ++ other) := by
  intro within
  induction front generalizing within with
  | nil => exact same within
  | cons char front ih => simp only [List.cons_append, skeletonFrom, ih]

theorem skeletonFrom_run (outside : ∀ char ∈ text, isAscii char = false) (rest : List Char) :
    skeletonFrom true (text ++ rest) = skeletonFrom true rest := by
  induction text with
  | nil => rfl
  | cons char text ih =>
    rw [List.forall_mem_cons] at outside
    rw [List.cons_append, skeletonFrom_true outside.1, ih outside.2]

/-- It does not matter which characters outside ASCII a run has, nor how many. -/
theorem sameSkeleton_of_runs (some : text ≠ []) (otherSome : other ≠ [])
    (outside : ∀ char ∈ text, isAscii char = false)
    (otherOutside : ∀ char ∈ other, isAscii char = false) (rest : List Char) :
    SameSkeleton (text ++ rest) (other ++ rest) := by
  have begun {run : List Char} (some : run ≠ []) (outside : ∀ char ∈ run, isAscii char = false) :
      skeletonFrom false (run ++ rest) = separator :: skeletonFrom true rest := by
    obtain ⟨char, run, rfl⟩ := List.exists_cons_of_ne_nil some
    rw [List.forall_mem_cons] at outside
    rw [List.cons_append, skeletonFrom_false outside.1, skeletonFrom_run outside.2]
  rintro (_ | _)
  · rw [begun some outside, begun otherSome otherOutside]
  · rw [skeletonFrom_run outside, skeletonFrom_run otherOutside]

theorem withoutReturns_cons (other : char ≠ '\r') (text : List Char) :
    withoutReturns (char :: text) = char :: withoutReturns text :=
  List.filter_cons_of_pos (by simpa using other)

/-- Carriage returns can be taken out of the skeleton, which may join its runs. -/
theorem skeletonFrom_withoutReturns {begun : Bool} (goesOn : begun = true → within = true)
    (text : List Char) :
    skeletonFrom within (withoutReturns (skeletonFrom begun text)) =
      skeletonFrom within (withoutReturns text) := by
  induction text generalizing within begun with
  | nil => rfl
  | cons char text ih =>
    cases here : isAscii char with
    | true =>
      rw [skeletonFrom_ascii here]
      by_cases returns : char = '\r'
      · subst returns
        exact ih (by simp)
      · rw [withoutReturns_cons returns, withoutReturns_cons returns, skeletonFrom_ascii here,
          skeletonFrom_ascii here, ih (by simp)]
    | false =>
      have kept : char ≠ '\r' := by
        rintro rfl
        exact absurd here (by decide)
      have separated : separator ≠ '\r' := by decide
      have rest : skeletonFrom true (withoutReturns (skeletonFrom true text)) =
          skeletonFrom true (withoutReturns text) := ih id
      rw [withoutReturns_cons kept]
      cases begun with
      | true => rw [goesOn rfl, skeletonFrom_true here, skeletonFrom_true here, rest]
      | false =>
        rw [skeletonFrom_false here, withoutReturns_cons separated]
        cases within with
        | true => rw [skeletonFrom_true (by decide), skeletonFrom_true here, rest]
        | false => rw [skeletonFrom_false (by decide), skeletonFrom_false here, rest]

theorem SameSkeleton.withoutReturns (same : SameSkeleton text other) :
    SameSkeleton (withoutReturns text) (withoutReturns other) := by
  intro within
  have drawn (text : List Char) : skeletonFrom within (Text.withoutReturns (skeletonFrom false text)) =
      skeletonFrom within (Text.withoutReturns text) := skeletonFrom_withoutReturns (by simp) text
  rw [← drawn text, same, drawn]

/-! ### ASCII markers in skeletons -/

theorem skeleton_append (ascii : ∀ char ∈ marker, isAscii char = true) (rest : List Char) :
    skeleton (marker ++ rest) = marker ++ skeleton rest := by
  induction marker with
  | nil => rfl
  | cons char marker ih =>
    rw [List.forall_mem_cons] at ascii
    rw [List.cons_append, skeleton, skeletonFrom_ascii ascii.1, ← skeleton, ih ascii.2,
      List.cons_append]

theorem prefix_skeleton_iff (ascii : ∀ char ∈ marker, isAscii char = true) :
    marker <+: skeleton text ↔ marker <+: text := by
  constructor
  · intro leads
    induction marker generalizing text with
    | nil => exact List.nil_prefix
    | cons first marker ih =>
      rw [List.forall_mem_cons] at ascii
      cases text with
      | nil => simp [skeleton] at leads
      | cons char text =>
        cases here : isAscii char with
        | true =>
          rw [skeleton, skeletonFrom_ascii here, List.cons_prefix_cons] at leads
          exact List.cons_prefix_cons.mpr ⟨leads.1, ih ascii.2 leads.2⟩
        | false =>
          rw [skeleton, skeletonFrom_false here, List.cons_prefix_cons] at leads
          obtain ⟨rfl, -⟩ := leads
          exact absurd ascii.1 (by decide)
  · rintro ⟨rest, rfl⟩
    exact ⟨skeleton rest, (skeleton_append ascii rest).symm⟩

theorem isPrefixOf_skeleton (ascii : ∀ char ∈ marker, isAscii char = true) (text : List Char) :
    marker.isPrefixOf (skeleton text) = marker.isPrefixOf text := by
  rw [Bool.eq_iff_iff, List.isPrefixOf_iff_prefix, List.isPrefixOf_iff_prefix,
    prefix_skeleton_iff ascii]

theorem drop_skeleton (ascii : ∀ char ∈ marker, isAscii char = true) (leads : marker <+: text) :
    (skeleton text).drop marker.length = skeleton (text.drop marker.length) := by
  obtain ⟨rest, rfl⟩ := leads
  rw [skeleton_append ascii, List.drop_left, List.drop_left]

/-- Where a character outside ASCII stands, no ASCII marker begins. -/
theorem not_isPrefixOf (some : marker ≠ []) (ascii : ∀ char ∈ marker, isAscii char = true)
    (outside : isAscii char = false) (text : List Char) :
    marker.isPrefixOf (char :: text) = false := by
  obtain ⟨first, marker, rfl⟩ := List.exists_cons_of_ne_nil some
  have different : first ≠ char := by
    rintro rfl
    rw [ascii first List.mem_cons_self] at outside
    cases outside
  simp [List.isPrefixOf, different]

theorem sites_nil (some : marker ≠ []) : sites marker [] = [] := by
  simp [sites, siteIn, some]

theorem sites_cons (marker : List Char) (char : Char) (text : List Char) :
    sites marker (char :: text) = (siteIn marker ([], char :: text)).toList ++
      (sites marker text).map fun site => (char :: site.1, site.2) := by
  have later : ((text.inits.map (char :: ·)).zip text.tails).filterMap (siteIn marker) =
      (sites marker text).map fun site => (char :: site.1, site.2) := by
    rw [sites, List.map_filterMap, List.zip_map_left, List.filterMap_map]
    apply List.filterMap_congr
    intro parts _
    simp only [siteIn, Function.comp_apply, Prod.map_fst, Prod.map_snd, id]
    split <;> rfl
  rw [← later, sites, List.inits_cons, List.tails_cons, List.zip_cons_cons, List.filterMap_cons]
  cases siteIn marker ([], char :: text) <;> rfl

/-- A site with the skeletons of what is around the marker, where a run may come before the text. -/
def around (within : Bool) (site : List Char × List Char) : List Char × List Char :=
  (skeletonFrom within site.1, skeleton site.2)

theorem siteIn_skeleton (ascii : ∀ char ∈ marker, isAscii char = true) (within : Bool)
    (text : List Char) :
    siteIn marker ([], skeleton text) = (siteIn marker ([], text)).map (around within) := by
  simp only [siteIn, isPrefixOf_skeleton ascii]
  split
  · rename_i leads
    rw [drop_skeleton ascii (List.isPrefixOf_iff_prefix.mp leads)]
    rfl
  · rfl

theorem siteIn_outside (some : marker ≠ []) (ascii : ∀ char ∈ marker, isAscii char = true)
    (outside : isAscii char = false) (text : List Char) :
    siteIn marker ([], char :: text) = none := by
  rw [siteIn, not_isPrefixOf some ascii outside]
  rfl

/-- An ASCII marker stands in the skeleton where it stands in the text. -/
theorem sites_skeletonFrom (some : marker ≠ []) (ascii : ∀ char ∈ marker, isAscii char = true)
    (within : Bool) (text : List Char) :
    sites marker (skeletonFrom within text) = (sites marker text).map (around within) := by
  induction text generalizing within with
  | nil => rw [skeletonFrom_nil, sites_nil some, List.map_nil]
  | cons char text ih =>
    rw [sites_cons marker char text, List.map_append, List.map_map]
    cases here : isAscii char with
    | true =>
      have first : skeleton (char :: text) = char :: skeletonFrom false text :=
        skeletonFrom_ascii here text
      rw [skeletonFrom_ascii here, sites_cons, ih, List.map_map, ← first,
        siteIn_skeleton ascii within, Option.toList_map]
      simp only [Function.comp_def, around, skeletonFrom_ascii here]
    | false =>
      rw [siteIn_outside some ascii here, Option.toList_none, List.map_nil, List.nil_append]
      cases within with
      | true =>
        rw [skeletonFrom_true here, ih]
        simp only [Function.comp_def, around, skeletonFrom_true here]
        rfl
      | false =>
        rw [skeletonFrom_false here, sites_cons, siteIn_outside some ascii (by decide), ih,
          List.map_map, Option.toList_none, List.nil_append]
        simp only [Function.comp_def, around, skeletonFrom_false here]

theorem occurrencesFrom_skeletonFrom (some : marker ≠ [])
    (ascii : ∀ char ∈ marker, isAscii char = true) {skip : Nat} (within : Bool) {text : List Char}
    (skipped : ∀ char ∈ text.take skip, isAscii char = true) :
    occurrencesFrom marker skip (skeletonFrom within text) =
      (occurrencesFrom marker skip text).map skeleton := by
  induction text generalizing skip within with
  | nil => simp [occurrencesFrom]
  | cons char text ih =>
    cases skip with
    | succ skip =>
      rw [List.take_succ_cons, List.forall_mem_cons] at skipped
      rw [skeletonFrom_ascii skipped.1, occurrencesFrom, occurrencesFrom, ih false skipped.2]
    | zero =>
      rw [occurrencesFrom]
      cases here : isAscii char with
      | true =>
        have first : skeleton (char :: text) = char :: skeletonFrom false text :=
          skeletonFrom_ascii here text
        rw [skeletonFrom_ascii here, occurrencesFrom, ← first, isPrefixOf_skeleton ascii]
        by_cases leads : marker.isPrefixOf (char :: text) = true
        · have leading := List.isPrefixOf_iff_prefix.mp leads
          have remaining : ∀ other ∈ text.take (marker.length - 1), isAscii other = true := by
            intro other member
            obtain ⟨rest, parts⟩ := leading
            obtain ⟨head, marker, rfl⟩ := List.exists_cons_of_ne_nil some
            rw [List.cons_append, List.cons.injEq] at parts
            rw [List.length_cons, Nat.add_sub_cancel, ← parts.2, List.take_left] at member
            exact ascii other (List.mem_cons_of_mem _ member)
          rw [if_pos leads, if_pos leads, drop_skeleton ascii leading, ih false remaining,
            List.map_cons]
        · rw [if_neg leads, if_neg leads, ih false (by simp)]
      | false =>
        rw [not_isPrefixOf some ascii here]
        cases within with
        | true => rw [skeletonFrom_true here]; exact ih true (by simp)
        | false =>
          have outside : isAscii separator = false := by decide
          rw [skeletonFrom_false here, occurrencesFrom, not_isPrefixOf some ascii outside]
          exact ih true (by simp)

/-- The search for an ASCII marker finds the same in the skeleton of a text. -/
theorem occurrences_skeleton (ascii : ∀ char ∈ marker, isAscii char = true) (text : List Char) :
    occurrences marker (skeleton text) = (occurrences marker text).map skeleton := by
  by_cases empty : marker = []
  · subst empty
    rfl
  · have nonempty : marker.isEmpty = false := by simpa using empty
    simp only [occurrences, nonempty, Bool.false_eq_true, if_false]
    exact occurrencesFrom_skeletonFrom empty ascii false (by simp)

end Registrar.Text

namespace Registrar.Utf8
open Text

/-- The code point of a character outside ASCII. -/
def IsOutside (code : Nat) : Prop :=
  0x80 ≤ code ∧ code < 0xD800 ∨ 0xDFFF < code ∧ code < 0x110000

/-- The next byte of a character, if it is in the bounds, is outside ASCII, and whichever such bytes
complete the character, it is outside ASCII too. -/
def Completes : Nat → Nat → Nat → Nat → Prop
  | 0, low, high, code =>
    0x80 ≤ low ∧ ∀ byte, low ≤ byte → byte ≤ high → IsOutside (code * 0x40 + (byte - 0x80))
  | more + 1, low, high, code =>
    0x80 ≤ low ∧ ∀ byte, low ≤ byte → byte ≤ high →
      Completes more 0x80 0xBF (code * 0x40 + (byte - 0x80))

/-- A state that reading bytes can lead to. -/
def State.Sound : State → Prop
  | .start => True
  | .inside more low high code => Completes more low high code

theorem code_ofNat {code : Nat} (valid : code.isValidChar) : (Char.ofNat code).toNat = code := by
  rw [Char.ofNat, dif_pos valid]
  rfl

theorem isAscii_ofNat {code : Nat} (outside : IsOutside code) : isAscii (Char.ofNat code) = false := by
  unfold IsOutside at outside
  have valid : code.isValidChar := by
    unfold Nat.isValidChar
    omega
  rw [isAscii, code_ofNat valid, decide_eq_false_iff_not]
  omega

theorem lead_sound (byte : Nat) : (lead byte).2.Sound := by
  unfold lead
  split
  · trivial
  split
  · trivial
  split
  · simp only [State.Sound, Completes, IsOutside]
    exact ⟨by omega, fun second _ _ => by omega⟩
  split
  · simp only [State.Sound, Completes, IsOutside]
    refine ⟨by split <;> omega, fun second low high => ⟨by omega, fun third _ _ => ?_⟩⟩
    split at low <;> split at high <;> omega
  split
  · simp only [State.Sound, Completes, IsOutside]
    refine ⟨by split <;> omega, fun second low high =>
      ⟨by omega, fun third _ _ => ⟨by omega, fun fourth _ _ => ?_⟩⟩⟩
    split at low <;> split at high <;> omega
  · trivial

theorem code_byte (byte : UInt8) : (Char.ofNat byte.toNat).toNat = byte.toNat := by
  have small := byte.toNat_lt
  exact code_ofNat (.inl (by omega))

theorem isAscii_replacement : isAscii replacement = false := by decide

theorem step_sound {state : State} (sound : state.Sound) (byte : UInt8) :
    (step state byte).2.Sound := by
  cases state with
  | start => exact lead_sound byte.toNat
  | inside more low high code =>
    rw [step]
    split
    · rename_i fits
      cases more with
      | zero => trivial
      | succ more => exact sound.2 byte.toNat fits.1 fits.2
    · exact lead_sound byte.toNat

/-- A byte outside ASCII is read as one mark, now or when what follows it is known. -/
theorem lead_outside {byte : Nat} (outside : 0x80 ≤ byte) :
    (lead byte).1 ++ finish (lead byte).2 = [replacement] := by
  unfold lead
  rw [if_neg (by omega)]
  repeat' split
  all_goals rfl

theorem lead_skeleton (byte : UInt8) (rest : List Char) :
    SameSkeleton ((lead byte.toNat).1 ++ (finish (lead byte.toNat).2 ++ rest))
      (Char.ofNat byte.toNat :: rest) := by
  by_cases ascii : byte.toNat < 0x80
  · rw [lead, if_pos ascii]
    exact fun _ => rfl
  · have outside : isAscii (Char.ofNat byte.toNat) = false := by
      rw [isAscii, code_byte]
      exact decide_eq_false ascii
    rw [← List.append_assoc, lead_outside (by omega)]
    exact sameSkeleton_of_runs (by simp) (by simp) (by simp [isAscii_replacement])
      (List.forall_mem_singleton.mpr outside) rest

/-- Reading a byte keeps the skeleton: what is read and, where the character is not complete, a mark
for it have the skeleton of the byte behind the mark of before. -/
theorem step_skeleton {state : State} (sound : state.Sound) (byte : UInt8) (rest : List Char) :
    SameSkeleton ((step state byte).1 ++ (finish (step state byte).2 ++ rest))
      (finish state ++ Char.ofNat byte.toNat :: rest) := by
  cases state with
  | start => exact lead_skeleton byte rest
  | inside more low high code =>
    rw [step]
    split
    · rename_i fits
      have outside : isAscii (Char.ofNat byte.toNat) = false := by
        have above : 0x80 ≤ low := by
          cases more <;> exact sound.1
        rw [isAscii, code_byte, decide_eq_false_iff_not]
        omega
      have bytes : ∀ char ∈ [replacement, Char.ofNat byte.toNat], isAscii char = false := by
        simp [isAscii_replacement, outside]
      cases more with
      | zero =>
        have complete := isAscii_ofNat (sound.2 byte.toNat fits.1 fits.2)
        exact sameSkeleton_of_runs (by simp) (by simp) (List.forall_mem_singleton.mpr complete) bytes
          rest
      | succ more =>
        exact sameSkeleton_of_runs (by simp) (by simp)
          (List.forall_mem_singleton.mpr isAscii_replacement) bytes rest
    · exact (lead_skeleton byte rest).append [replacement]

/-- The decoder neither makes nor takes ASCII, in whichever state it begins. -/
theorem decodeFrom_skeleton {state : State} (sound : state.Sound) (bytes : List UInt8) :
    SameSkeleton (decodeFrom state bytes) (finish state ++ ofBytes bytes) := by
  induction bytes generalizing state with
  | nil =>
    rw [decodeFrom, ofBytes, List.map_nil, List.append_nil]
    exact fun _ => rfl
  | cons byte bytes ih =>
    have rest := (ih (step_sound sound byte)).append (step state byte).1
    exact rest.trans (step_skeleton sound byte (ofBytes bytes))

theorem decode_skeleton (bytes : List UInt8) : SameSkeleton (decode bytes) (ofBytes bytes) := by
  have sound : State.start.Sound := trivial
  exact decodeFrom_skeleton sound bytes

theorem ofBytes_filter (bytes : List UInt8) :
    ofBytes (bytes.filter (· != 0x0D)) = withoutReturns (ofBytes bytes) := by
  have same (byte : UInt8) : (byte != 0x0D) = (Char.ofNat byte.toNat != '\r') := by
    rw [Bool.eq_iff_iff, bne_iff_ne, bne_iff_ne, ← UInt8.toNat_inj.ne, ← Char.toNat_inj.ne,
      code_byte]
    rfl
  rw [withoutReturns, ofBytes, ofBytes, List.filter_map]
  simp only [Function.comp_def, same]

end Registrar.Utf8
