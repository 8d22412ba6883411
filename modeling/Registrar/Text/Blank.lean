/-! Blank characters, trimming and lines. A blank is a character with the Unicode property
`White_Space`; a line ends at a line feed and at nothing else. -/
namespace Registrar.Text

/-- The code point ranges of the Unicode property `White_Space`, both ends included. -/
def blankRanges : List (Nat × Nat) :=
  [(0x9, 0xD), (0x20, 0x20), (0x85, 0x85), (0xA0, 0xA0), (0x1680, 0x1680), (0x2000, 0x200A),
    (0x2028, 0x2029), (0x202F, 0x202F), (0x205F, 0x205F), (0x3000, 0x3000)]

def inRanges (ranges : List (Nat × Nat)) (code : Nat) : Bool :=
  ranges.any fun range => range.1 ≤ code && code ≤ range.2

def isBlank (char : Char) : Bool :=
  inRanges blankRanges char.toNat

def trimWith (drops : Char → Bool) (text : List Char) : List Char :=
  ((text.dropWhile drops).reverse.dropWhile drops).reverse

def trim (text : List Char) : List Char :=
  trimWith isBlank text

def trimmed (text : String) : String :=
  String.ofList (trim text.toList)

def line (text : List Char) : List Char :=
  text.takeWhile (· != '\n')

def withoutReturns (text : List Char) : List Char :=
  text.filter (· != '\r')

theorem line_no_feed (text : List Char) : '\n' ∉ line text := by
  induction text with
  | nil => simp [line]
  | cons char text ih =>
    by_cases feed : char = '\n'
    · simp [line, feed]
    · simp only [line, List.takeWhile_cons, bne_iff_ne, ne_eq, feed, not_false_eq_true, ↓reduceIte,
        List.mem_cons, not_or]
      exact ⟨fun equal => feed equal.symm, ih⟩

theorem withoutReturns_no_return (text : List Char) : '\r' ∉ withoutReturns text := by
  simp [withoutReturns]

end Registrar.Text
