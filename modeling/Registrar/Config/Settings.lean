import Registrar.Config.Environment
import Registrar.VocabularyKey

/-! Settings with types. They are decoded from one table, which is merged from the layers first: a
value that a later layer replaces is never looked at. -/
namespace Registrar.Config

structure Settings where
  profile : Profile
  sourceDir : String
  libName : Option String
  overrides : Overrides
  deriving DecidableEq, Repr

namespace Settings

def defaultSourceDir : String := "../../unittest"

def vocabulary (settings : Settings) : Vocabulary :=
  settings.profile.vocabulary.apply settings.overrides

/-- The library name without blanks at its ends, if anything else is in it. -/
def namespaceOverride (settings : Settings) : Option String :=
  (settings.libName.map Text.trimmed).filter (!·.isEmpty)

end Settings

structure Chosen where
  profile : Option Profile := none
  sourceDir : Option String := none
  libName : Option String := none
  deriving DecidableEq, Repr

/-! ### Layers -/

def libNameKey : String := "lib_name"

def profileKey : String := "profile"

def sourceDirKey : String := "source_dir"

def vocabularyKey : String := "vocabulary"

def defaultLayer : Value :=
  .table .defaults [
    (profileKey, .scalar .defaults (.text Profile.default.name)),
    (sourceDirKey, .scalar .defaults (.text Settings.defaultSourceDir)),
    (vocabularyKey, .table .defaults [])]

def Chosen.layer (chosen : Chosen) : Value :=
  let field (key : String) (value : Option String) : Fields :=
    (value.map fun value => (key, .scalar .commandLine (.text value))).toList
  .table .commandLine
    (field libNameKey chosen.libName ++ field profileKey (chosen.profile.map Profile.name)
      ++ field sourceDirKey chosen.sourceDir)

/-- The layers from the weakest to the strongest: defaults, file, environment, command line. -/
def layers (file : Option Value) (environment : List (String × String)) (chosen : Chosen) : List Value :=
  defaultLayer :: file.toList ++ [Environment.layer environment, chosen.layer]

def merged (layers : List Value) : Value :=
  layers.foldl Value.merge (.table .defaults [])

/-! ### Decoding -/

namespace Decode

def mismatch {α : Type} (path : List String) (value : Value) (expected : String) : Except Fault α :=
  .error ⟨.invalidType value.described expected, path, value.origin⟩

def text (path : List String) : Value → Except Fault String
  | .scalar _ value => .ok value.plain
  | value => mismatch path value "a string or scalar value"

/-- One of some named choices, which a text names. A table names one by its first key, but no
value goes with a choice. -/
def choice {α : Type} (kind : String) (choices : List α) (name : α → String) (path : List String) :
    Value → Except Fault α
  | .scalar origin (.text found) =>
    match choices.find? (name · == found) with
    | some chosen => .ok chosen
    | none => .error ⟨.unknownVariant found (choices.map name), path, origin⟩
  | .table origin ((key, value) :: _) =>
    match choices.find? (name · == key) with
    | some _ => mismatch (path ++ [key]) value "unit"
    | none => .error ⟨.unknownVariant key (choices.map name), path ++ [key], origin⟩
  | .table origin [] => mismatch path (.table origin []) "enum"
  | value => mismatch path value ("enum " ++ kind)

def profile : List String → Value → Except Fault Profile :=
  choice "Profile" Profile.all Profile.name

def headerStyle : List String → Value → Except Fault HeaderStyle :=
  choice "HeaderStyle" HeaderStyle.all HeaderStyle.name

def replace (overrides : Overrides) (path : List String) (value : Value) :
    VocabularyKey → Except Fault Overrides
  | .namespaceMarker => do return { overrides with namespaceMarker := some (← text path value) }
  | .suiteMarker => do return { overrides with suiteMarker := some (← text path value) }
  | .testMarker => do return { overrides with testMarker := some (← text path value) }
  | .runClassBegin => do return { overrides with runClassBegin := some (← text path value) }
  | .runClassEnd => do return { overrides with runClassEnd := some (← text path value) }
  | .runMethod => do return { overrides with runMethod := some (← text path value) }
  | .header => do return { overrides with header := some (← text path value) }
  | .headerStyle => do return { overrides with headerStyle := some (← headerStyle path value) }
  | .frameworkSource => do return { overrides with frameworkSource := some (← text path value) }
  | .extension => do return { overrides with extension := some (← text path value) }
  | .outputDir => do return { overrides with outputDir := some (← text path value) }
  | .outputPrefix => do return { overrides with outputPrefix := some (← text path value) }

/-- Replacements: a table by name, in the order of the names, or a list in the order of the fields.
Other keys of a table, and what a list holds beyond the fields, are passed over. -/
def overrides (path : List String) : Value → Except Fault Overrides
  | .table _ fields =>
    VocabularyKey.byName.foldlM (fun replaced key =>
      match Fields.get? fields key.name with
      | some value => replace replaced (path ++ [key.name]) value key
      | none => .ok replaced) {}
  | .list _ items =>
    (VocabularyKey.all.zip items).zipIdx.foldlM (fun replaced ((key, value), index) =>
      replace replaced (path ++ [toString index]) value key) {}
  | value => mismatch path value "struct VocabularyOverrides"

def field? {α : Type} (decode : List String → Value → Except Fault α) (fields : Fields)
    (key : String) : Except Fault (Option α) :=
  match Fields.get? fields key with
  | some value => some <$> decode [key] value
  | none => .ok none

/-- Settings. Of several mismatches the one at the first key, by name, counts. -/
def settings (fields : Fields) : Except Fault Settings := do
  let libName ← field? text fields libNameKey
  let profile ← field? profile fields profileKey
  let sourceDir ← field? text fields sourceDirKey
  let overrides ← field? overrides fields vocabularyKey
  return {
    profile := profile.getD .default
    sourceDir := sourceDir.getD Settings.defaultSourceDir
    libName
    overrides := overrides.getD {} }

end Decode

def Value.fields : Value → Fields
  | .table _ fields => fields
  | _ => []

def settle (file : Option Value) (environment : List (String × String)) (chosen : Chosen) :
    Except Fault Settings :=
  Decode.settings (merged (layers file environment chosen)).fields

end Registrar.Config
