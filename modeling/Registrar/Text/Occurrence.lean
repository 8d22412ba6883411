/-! Occurrences of a marker in a text, found from left to right and never overlapping. Each
occurrence is given by the text that follows it. -/
namespace Registrar.Text

/-- What follows each occurrence of `marker`, where the first `skip` characters belong to an
occurrence already counted. -/
def occurrencesFrom (marker : List Char) : Nat → List Char → List (List Char)
  | _, [] => []
  | skip + 1, _ :: text => occurrencesFrom marker skip text
  | 0, char :: text =>
    if marker.isPrefixOf (char :: text) then
      (char :: text).drop marker.length :: occurrencesFrom marker (marker.length - 1) text
    else
      occurrencesFrom marker 0 text

/-- What follows each occurrence of `marker`, from left to right: after an occurrence the search
goes on at its end. An empty marker occurs nowhere. -/
def occurrences (marker text : List Char) : List (List Char) :=
  if marker.isEmpty then [] else occurrencesFrom marker 0 text

def after? (marker text : List Char) : Option (List Char) :=
  (occurrences marker text).head?

theorem occurrences_empty (text : List Char) : occurrences [] text = [] := rfl

theorem occurrencesFrom_suffix {marker text rest : List Char} {skip : Nat}
    (found : rest ∈ occurrencesFrom marker skip text) : rest <:+ text := by
  induction text generalizing skip with
  | nil => simp [occurrencesFrom] at found
  | cons char text ih =>
    cases skip with
    | succ skip => exact (ih found).trans (List.suffix_cons ..)
    | zero =>
      unfold occurrencesFrom at found
      split at found
      · rcases List.mem_cons.mp found with rfl | found
        · exact List.drop_suffix ..
        · exact (ih found).trans (List.suffix_cons ..)
      · exact (ih found).trans (List.suffix_cons ..)

theorem occurrences_suffix {marker text rest : List Char}
    (found : rest ∈ occurrences marker text) : rest <:+ text := by
  unfold occurrences at found
  split at found
  · simp at found
  · exact occurrencesFrom_suffix found

end Registrar.Text
