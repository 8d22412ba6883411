import Registrar.FileSystem.Path
import Registrar.Proofs.Text.Encoding

/-! How the bytes of a path divide into steps, and what joining two paths does to them. A name put
at the end of a path decides its last step alone. -/
namespace Registrar.Path

variable {front back name : List UInt8}

theorem segments_slash (bytes : List UInt8) : segments (slash :: bytes) = [] :: segments bytes := by
  rw [segments, if_pos rfl]

theorem segments_cons {byte : UInt8} {bytes : List UInt8} {first : Name} {rest : List Name}
    (plain : byte ≠ slash) (divided : segments bytes = first :: rest) :
    segments (byte :: bytes) = (byte :: first) :: rest := by
  rw [segments, if_neg plain, divided]

theorem segments_of_plain (plain : slash ∉ name) : segments name = [name] := by
  induction name with
  | nil => rfl
  | cons byte name ih =>
    rw [List.mem_cons, not_or] at plain
    exact segments_cons (Ne.symm plain.1) (ih plain.2)

/-- A name after a path lengthens the last segment, whatever the name is. -/
theorem segments_append (front : List UInt8) : ∃ init stem, ∀ name, slash ∉ name →
    segments (front ++ name) = init ++ [stem ++ name] := by
  induction front with
  | nil => exact ⟨[], [], fun name => segments_of_plain⟩
  | cons byte front ih =>
    obtain ⟨init, stem, divided⟩ := ih
    by_cases atSlash : byte = slash
    · subst atSlash
      refine ⟨[] :: init, stem, ?_⟩
      intro name plain
      rw [List.cons_append, segments_slash, divided name plain, List.cons_append]
    · cases init with
      | nil =>
        refine ⟨[], byte :: stem, ?_⟩
        intro name plain
        exact segments_cons atSlash (divided name plain)
      | cons first init =>
        refine ⟨(byte :: first) :: init, stem, ?_⟩
        intro name plain
        exact segments_cons atSlash (divided name plain)

theorem segments_append_slash (front back : List UInt8) :
    segments (front ++ slash :: back) = segments front ++ segments back := by
  induction front with
  | nil => exact segments_slash back
  | cons byte front ih =>
    by_cases atSlash : byte = slash
    · subst atSlash
      rw [List.cons_append, segments_slash, segments_slash, ih, List.cons_append]
    · obtain ⟨init, stem, divided⟩ := segments_append front
      have whole := divided [] (List.not_mem_nil)
      rw [List.append_nil] at whole
      rw [whole] at ih
      cases init with
      | nil => rw [List.cons_append, segments_cons atSlash ih, segments_cons atSlash whole]; rfl
      | cons first init =>
        rw [List.cons_append, segments_cons atSlash ih, segments_cons atSlash whole]; rfl

/-- A segment that asks for a step down: it is not empty, and it is neither of the special ones. -/
def Ordinary (segment : Name) : Prop :=
  segment ≠ [] ∧ segment ≠ [dot] ∧ segment ≠ [dot, dot]

theorem step?_of_ordinary (ordinary : Ordinary name) : step? name = some (.down name) := by
  rw [step?, if_neg ordinary.1, if_neg ordinary.2.1, if_neg ordinary.2.2]

theorem Ordinary.append (stem : List UInt8) (ordinary : Ordinary name) : Ordinary (stem ++ name) := by
  obtain ⟨some, notDot, notDots⟩ := ordinary
  rcases stem with _ | ⟨first, _ | ⟨second, stem⟩⟩
  · exact ⟨some, notDot, notDots⟩
  · refine ⟨by simp, by simp [some], ?_⟩
    intro dots
    exact notDot (List.cons.inj dots).2
  · refine ⟨by simp, by simp, ?_⟩
    simp [some]

theorem isName_iff : isName name = true ↔
    Ordinary name ∧ slash ∉ name ∧ 0 ∉ name ∧ name.length ≤ longestName := by
  simp only [isName, Ordinary, Bool.and_eq_true, bne_iff_ne, ne_eq, Bool.not_eq_true',
    List.contains_eq_mem, decide_eq_false_iff_not, decide_eq_true_eq, and_assoc]

/-- A path that ends in a name ends with the step to it, or to what it completes. -/
theorem steps_append (front : List UInt8) : ∃ before stem, ∀ name, Ordinary name → slash ∉ name →
    (parse (front ++ name)).steps = before ++ [.down (stem ++ name)] := by
  obtain ⟨init, stem, divided⟩ := segments_append front
  refine ⟨init.filterMap step?, stem, ?_⟩
  intro name ordinary plain
  simp only [parse, divided name plain, List.filterMap_append, List.filterMap_cons,
    step?_of_ordinary (ordinary.append stem), List.filterMap_nil]

theorem steps_append_slash (front back : List UInt8) :
    (parse (front ++ slash :: back)).steps = (parse front).steps ++ (parse back).steps := by
  simp only [parse, segments_append_slash, List.filterMap_append]

theorem absolute_append (some : front ≠ []) (back : List UInt8) :
    (parse (front ++ back)).absolute = (parse front).absolute := by
  cases front with
  | nil => exact absurd rfl some
  | cons byte front => rfl

theorem slashed_append (front : List UInt8) (some : name ≠ []) (plain : slash ∉ name) :
    (parse (front ++ name)).slashed = false := by
  rw [parse, decide_eq_false_iff_not, List.getLast?_append, List.getLast?_eq_some_getLast some,
    Option.some_or, Option.some.injEq]
  exact fun last => plain (last ▸ List.getLast_mem some)

theorem parse_of_ordinary (ordinary : Ordinary name) (plain : slash ∉ name) :
    parse name = ⟨false, [.down name], false⟩ := by
  have noHead : name.head? ≠ some slash := by
    intro head
    exact plain (List.mem_of_head? head)
  have noLast : name.getLast? ≠ some slash := by
    intro last
    exact plain (List.mem_of_getLast? last)
  simp only [parse, segments_of_plain plain, List.filterMap_cons, step?_of_ordinary ordinary,
    List.filterMap_nil, noHead, noLast, decide_false]

theorem parse_join {first second : String} (some : first ≠ "")
    (ordinary : Ordinary (Utf8.bytes second)) (plain : slash ∉ Utf8.bytes second) :
    parse (Utf8.bytes (join first second)) =
      ⟨(parse (Utf8.bytes first)).absolute,
        (parse (Utf8.bytes first)).steps ++ [.down (Utf8.bytes second)], false⟩ := by
  have relative : second.startsWith "/" = false := by
    rw [Bool.eq_false_iff, ne_eq, String.startsWith_string_iff]
    intro starts
    exact plain (Utf8.slash_mem_bytes.mpr (starts.subset (List.mem_singleton_self _)))
  have given : Utf8.bytes first ≠ [] := by rwa [ne_eq, Utf8.bytes_eq_nil_iff]
  have nonempty : first.isEmpty = false := by rwa [Bool.eq_false_iff, ne_eq, String.isEmpty_iff]
  have divided : ∃ front, (parse front).steps = (parse (Utf8.bytes first)).steps ∧
      Utf8.bytes (join first second) = front ++ slash :: Utf8.bytes second ∧
      ∃ rest, front ++ slash :: Utf8.bytes second = Utf8.bytes first ++ rest := by
    simp only [join, relative, nonempty, Bool.false_eq_true, if_false, Bool.false_or]
    by_cases ends : first.endsWith "/" = true
    · rw [if_pos ends]
      obtain ⟨front, parts⟩ := String.Slice.endsWith_string_iff.mp ends
      rw [String.copy_toSlice] at parts
      have parts : Utf8.bytes first = Utf8.encode front ++ [slash] := by
        rw [Utf8.bytes, ← parts, Utf8.encode_append]
        rfl
      refine ⟨Utf8.encode front, ?_, ?_, Utf8.bytes second, ?_⟩
      · rw [parts, steps_append_slash]
        exact (List.append_nil _).symm
      · rw [Utf8.bytes_append, parts, List.append_assoc, List.singleton_append]
      · rw [parts, List.append_assoc, List.singleton_append]
    · rw [if_neg ends]
      refine ⟨Utf8.bytes first, rfl, ?_, _, rfl⟩
      rw [Utf8.bytes_append, Utf8.bytes_append, List.append_assoc]
      rfl
  obtain ⟨front, steps, joined, rest, extended⟩ := divided
  have absolute : (parse (front ++ slash :: Utf8.bytes second)).absolute =
      (parse (Utf8.bytes first)).absolute := by rw [extended, absolute_append given]
  have slashed : (parse (front ++ slash :: Utf8.bytes second)).slashed = false := by
    rw [List.append_cons, slashed_append _ ordinary.1 plain]
  have onward := steps_append_slash front (Utf8.bytes second)
  rw [steps, parse_of_ordinary ordinary plain] at onward
  rw [joined, ← absolute, ← onward, ← slashed]

/-- One ordinary component of a path. -/
def IsComponent (text : String) : Prop :=
  text ≠ "" ∧ text ≠ "." ∧ text ≠ ".." ∧ '/' ∉ text.toList

theorem IsComponent.ordinary {text : String} (component : IsComponent text) :
    Ordinary (Utf8.bytes text) := by
  obtain ⟨some, notDot, notDots, -⟩ := component
  have dot : Utf8.bytes "." = [dot] := by decide
  have dots : Utf8.bytes ".." = [Path.dot, Path.dot] := by decide
  refine ⟨?_, ?_, ?_⟩
  · intro none
    exact some (Utf8.bytes_eq_nil_iff.mp none)
  · intro same
    exact notDot (Utf8.bytes_injective (same.trans dot.symm))
  · intro same
    exact notDots (Utf8.bytes_injective (same.trans dots.symm))

theorem IsComponent.plain {text : String} (component : IsComponent text) :
    slash ∉ Utf8.bytes text := by
  intro slash
  exact component.2.2.2 (Utf8.slash_mem_bytes.mp slash)

/-- The paths to companions in one directory differ where the names of their sources do. -/
theorem join_append (root front : String) : ∃ stem, ∀ name : String, '/' ∉ name.toList →
    join root (front ++ name) = stem ++ name := by
  have starts (name : String) (plain : '/' ∉ name.toList) :
      (front ++ name).startsWith "/" = front.startsWith "/" := by
    rw [Bool.eq_iff_iff, String.startsWith_string_iff, String.startsWith_string_iff,
      String.toList_append]
    cases front.toList with
    | nil =>
      constructor
      · intro starts
        exact absurd (starts.subset (List.mem_singleton_self _)) plain
      · intro starts
        exact absurd (starts.subset (List.mem_singleton_self _)) List.not_mem_nil
    | cons first rest => simp [List.cons_prefix_cons]
  by_cases absolute : front.startsWith "/" = true
  · refine ⟨front, ?_⟩
    intro name plain
    rw [join, starts name plain, if_pos absolute]
  · by_cases ends : (root.isEmpty || root.endsWith "/") = true
    · refine ⟨root ++ front, ?_⟩
      intro name plain
      rw [join, starts name plain, if_neg absolute, if_pos ends, String.append_assoc]
    · refine ⟨root ++ "/" ++ front, ?_⟩
      intro name plain
      rw [join, starts name plain, if_neg absolute, if_neg ends, ← String.append_assoc]

end Registrar.Path
