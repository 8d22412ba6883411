import Mathlib.Data.Option.Basic
import Registrar.Proofs.Config.Decoding

/-! Replacements for the fields of a vocabulary, read exactly: which tables decode, and to what. Each
field is decoded by itself, so that a table decodes where the values at all of its fields do. -/
namespace Registrar

namespace VocabularyKey

variable {vocabulary : Vocabulary} {overrides others : Overrides}

/-- What a value replaces a field by: a scalar by its text, which for the style of the header has to
name one. -/
def given? (key : VocabularyKey) : Config.Value → Option String
  | .scalar _ scalar =>
    match key, scalar with
    | headerStyle, .text name => (HeaderStyle.ofName? name).map HeaderStyle.name
    | headerStyle, _ => none
    | _, scalar => some scalar.plain
  | _ => none

theorem name_injective {style other : HeaderStyle} (same : style.name = other.name) :
    style = other := by
  cases style <;> cases other <;> first | rfl | exact absurd same (by decide)

/-- Overrides are known by the texts of their fields. -/
theorem text?_ext (same : ∀ key : VocabularyKey, key.text? overrides = key.text? others) :
    overrides = others := by
  have style : overrides.headerStyle = others.headerStyle :=
    Option.map_injective (fun _ _ => name_injective) (same .headerStyle)
  cases overrides
  cases others
  simp only [Overrides.mk.injEq]
  exact ⟨same .namespaceMarker, same .suiteMarker, same .testMarker, same .runClassBegin,
    same .runClassEnd, same .runMethod, same .header, style, same .frameworkSource, same .extension,
    same .outputDir, same .outputPrefix⟩

theorem scalar_of_given? {key : VocabularyKey} {value : Config.Value} {text : String}
    (given : key.given? value = some text) : ∃ origin scalar, value = .scalar origin scalar := by
  cases value with
  | scalar origin scalar => exact ⟨origin, scalar, rfl⟩
  | list | table => cases given

end VocabularyKey

namespace Config.Decode

variable {overrides replaced : Overrides} {path : List String} {value : Value} {fields : Fields}
  {key : VocabularyKey}

theorem headerStyle_of_name {origin : Origin} {style : HeaderStyle} {name : String}
    (known : HeaderStyle.ofName? name = some style) :
    headerStyle path (.scalar origin (.text name)) = .ok style := by
  rw [headerStyle, choice]
  rw [HeaderStyle.ofName?] at known
  rw [known]

theorem replace_of_given? (overrides : Overrides) (path : List String) {text : String}
    (given : key.given? value = some text) :
    ∃ replaced, replace overrides path value key = .ok replaced ∧
      ∀ other : VocabularyKey, other.text? replaced =
        if other = key then some text else other.text? overrides := by
  obtain ⟨origin, scalar, rfl⟩ := VocabularyKey.scalar_of_given? given
  cases key with
  | headerStyle =>
    cases scalar with
    | text name =>
      obtain ⟨style, known, rfl⟩ := Option.map_eq_some_iff.mp given
      refine ⟨{ overrides with headerStyle := some style }, ?_, ?_⟩
      · rw [replace, headerStyle_of_name known]
        rfl
      · intro other
        cases other <;> rfl
    | _ => cases given
  | _ =>
    cases given
    refine ⟨_, rfl, ?_⟩
    intro other
    cases other <;> rfl

theorem replace_of_not_given? (overrides : Overrides) (path : List String)
    (given : key.given? value = none) :
    ∃ fault, replace overrides path value key = .error fault := by
  cases key with
  | headerStyle =>
    have refused : ∃ fault, headerStyle path value = .error fault := by
      rw [headerStyle, choice.eq_def]
      split
      · rename_i name
        have unknown : HeaderStyle.all.find? (·.name == name) = none := by
          simpa [VocabularyKey.given?, HeaderStyle.ofName?] using given
        rw [unknown]
        exact ⟨_, rfl⟩
      · split <;> exact ⟨_, rfl⟩
      · exact ⟨_, rfl⟩
      · exact ⟨_, rfl⟩
    obtain ⟨fault, refused⟩ := refused
    refine ⟨fault, ?_⟩
    rw [replace, refused]
    rfl
  | _ =>
    cases value with
    | scalar => cases given
    | list | table => exact ⟨_, rfl⟩

/-- Replacements at some fields, one after the other: each field is what was given for it, and is
left as it was where nothing was given. -/
theorem replacements_ok_iff {keys : List VocabularyKey} (distinct : keys.Nodup) :
    keys.foldlM (fun replaced key =>
      match Fields.get? fields key.name with
      | some value => replace replaced (path ++ [key.name]) value key
      | none => .ok replaced) overrides = .ok replaced ↔
    ∀ key : VocabularyKey, (key.text? replaced).map some =
      ((if key ∈ keys then Fields.get? fields key.name else none).map key.given?).or
        ((key.text? overrides).map some) := by
  induction keys generalizing overrides with
  | nil =>
    simp only [List.foldlM_nil, pure, Except.pure, Except.ok.injEq, List.not_mem_nil, ↓reduceIte,
      Option.map_none, Option.none_or]
    constructor
    · rintro rfl key
      rfl
    · intro same
      apply VocabularyKey.text?_ext
      exact fun key => Option.map_injective (Option.some_injective _) (same key).symm
  | cons first keys ih =>
    obtain ⟨fresh, distinct⟩ := List.nodup_cons.mp distinct
    rw [List.foldlM_cons]
    cases found : Fields.get? fields first.name with
    | none =>
      simp only [bind, Except.bind]
      rw [ih distinct]
      apply forall_congr'
      intro key
      by_cases here : key = first
      · subst here
        simp [fresh, found]
      · simp [here]
    | some value =>
      cases given : first.given? value with
      | none =>
        obtain ⟨fault, refused⟩ := replace_of_not_given? overrides (path ++ [first.name]) given
        simp only [refused, bind, Except.bind, reduceCtorEq, false_iff]
        intro same
        have wrong := same first
        simp [found, given] at wrong
      | some text =>
        obtain ⟨between, done, texts⟩ := replace_of_given? overrides (path ++ [first.name]) given
        simp only [done, bind, Except.bind]
        rw [ih distinct]
        apply forall_congr'
        intro key
        by_cases here : key = first
        · subst here
          simp [fresh, found, given, texts]
        · simp [here, texts]

/-- A table of replacements decodes where the value at each field is fit for it, and each field is
then what its value gives. -/
theorem overrides_of_table_iff {origin : Origin} :
    Decode.overrides path (.table origin fields) = .ok overrides ↔
      ∀ key : VocabularyKey,
        (Fields.get? fields key.name).map key.given? = (key.text? overrides).map some := by
  rw [Decode.overrides]
  refine (replacements_ok_iff VocabularyKey.byName_nodup).trans (forall_congr' ?_)
  intro key
  rw [if_pos (VocabularyKey.mem_byName key), text?_empty, Option.map_none, Option.or_none]
  exact eq_comm

/-- Settings are decoded where each of the four is, and are what these give. -/
theorem settings_of_fields {libName sourceDir : Option String} {profile : Option Profile}
    {replacements : Option Overrides} (ofLibName : field? text fields libNameKey = .ok libName)
    (ofProfile : field? Decode.profile fields profileKey = .ok profile)
    (ofSourceDir : field? text fields sourceDirKey = .ok sourceDir)
    (ofVocabulary : field? Decode.overrides fields vocabularyKey = .ok replacements) :
    Decode.settings fields = .ok {
      profile := profile.getD .default
      sourceDir := sourceDir.getD Settings.defaultSourceDir
      libName
      overrides := replacements.getD {} } := by
  simp only [Decode.settings, ofLibName, ofProfile, ofSourceDir, ofVocabulary, bind, Except.bind]
  rfl

theorem field?_of_some {α : Type} {decode : List String → Value → Except Fault α} {name : String}
    {result : α} (given : Fields.get? fields name = some value)
    (decoded : decode [name] value = .ok result) : field? decode fields name = .ok (some result) := by
  rw [field?, given]
  dsimp only
  rw [decoded]
  rfl

theorem field?_of_none {α : Type} {decode : List String → Value → Except Fault α} {name : String}
    (absent : Fields.get? fields name = none) : field? decode fields name = .ok none := by
  rw [field?, absent]

end Config.Decode

end Registrar
