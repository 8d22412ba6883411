import Registrar.Text.Utf8

/-! Encoded text. Decoding gives back exactly what was encoded, and the bytes of a text can occur
in those of another only between characters, so that byte offsets and characters agree. -/
namespace Registrar.Utf8

theorem toNat_ofNat {code : Nat} (small : code < 0x100) : (UInt8.ofNat code).toNat = code := by
  rw [UInt8.toNat_ofNat', Nat.mod_eq_of_lt small]

theorem ofNat_code (char : Char) {code : Nat} (same : code = char.toNat) : Char.ofNat code = char := by
  rw [same, Char.ofNat_toNat]

theorem code_valid (char : Char) :
    char.toNat < 0xD800 ∨ 0xDFFF < char.toNat ∧ char.toNat < 0x110000 := char.valid

/-- A character has the bytes that it has in strings. -/
theorem encodeChar_eq (char : Char) : encodeChar char = String.utf8EncodeChar char := by
  have valid := code_valid char
  have code : char.val.toNat = char.toNat := rfl
  simp only [encodeChar, String.utf8EncodeChar, code]
  split
  · rw [if_pos (by omega)]
  split
  · have first : char.toNat / 64 % 32 = char.toNat / 64 := by omega
    rw [if_neg (by omega), if_pos (by omega), first, Nat.add_comm 0xC0, Nat.add_comm 0x80]
  split
  · have first : char.toNat / 4096 % 16 = char.toNat / 4096 := by omega
    rw [if_neg (by omega), if_neg (by omega), if_pos (by omega), first, Nat.add_comm 0xE0,
      Nat.add_comm 0x80, Nat.add_comm 0x80]
  · have first : char.toNat / 262144 % 8 = char.toNat / 262144 := by omega
    rw [if_neg (by omega), if_neg (by omega), if_neg (by omega), first, Nat.add_comm 0xF0,
      Nat.add_comm 0x80, Nat.add_comm 0x80, Nat.add_comm 0x80]

theorem bytes_eq_toByteArray (text : String) : bytes text = text.toByteArray.data.toList := by
  have same : encodeChar = String.utf8EncodeChar := funext encodeChar_eq
  rw [← String.utf8Encode_toList, List.utf8Encode, List.data_toByteArray, bytes, encode, same]

theorem decodeFrom_last {low high code : Nat} {byte : UInt8} (rest : List UInt8)
    (lower : low ≤ byte.toNat) (upper : byte.toNat ≤ high) :
    decodeFrom (.inside 0 low high code) (byte :: rest) =
      Char.ofNat (code * 0x40 + (byte.toNat - 0x80)) :: decodeFrom .start rest := by
  simp only [decodeFrom, step, lower, upper, and_self, if_true, List.cons_append, List.nil_append]

theorem decodeFrom_more {more low high code : Nat} {byte : UInt8} (rest : List UInt8)
    (lower : low ≤ byte.toNat) (upper : byte.toNat ≤ high) :
    decodeFrom (.inside (more + 1) low high code) (byte :: rest) =
      decodeFrom (.inside more 0x80 0xBF (code * 0x40 + (byte.toNat - 0x80))) rest := by
  simp only [decodeFrom, step, lower, upper, and_self, if_true, List.nil_append]

/-- A character is read off its own bytes, whatever follows them. -/
theorem decodeFrom_encodeChar (char : Char) (rest : List UInt8) :
    decodeFrom .start (encodeChar char ++ rest) = char :: decodeFrom .start rest := by
  have valid := code_valid char
  simp only [encodeChar]
  split
  · rename_i one
    simp only [List.cons_append, List.nil_append, decodeFrom, step, lead]
    rw [toNat_ofNat (by omega), if_pos one]
    simp only [ofNat_code char rfl, List.cons_append, List.nil_append]
  split
  · rename_i one two
    have first : (UInt8.ofNat (0xC0 + char.toNat / 0x40)).toNat = 0xC0 + char.toNat / 0x40 :=
      toNat_ofNat (by omega)
    have second : (UInt8.ofNat (0x80 + char.toNat % 0x40)).toNat = 0x80 + char.toNat % 0x40 :=
      toNat_ofNat (by omega)
    simp only [List.cons_append, List.nil_append]
    rw [decodeFrom]
    simp only [step, lead, first]
    rw [if_neg (by omega), if_neg (by omega), if_pos (by omega)]
    rw [List.nil_append, decodeFrom_last _ (by omega) (by omega), ofNat_code char (by omega)]
  split
  · rename_i one two three
    have first : (UInt8.ofNat (0xE0 + char.toNat / 0x1000)).toNat = 0xE0 + char.toNat / 0x1000 :=
      toNat_ofNat (by omega)
    have second : (UInt8.ofNat (0x80 + char.toNat / 0x40 % 0x40)).toNat = 0x80 + char.toNat / 0x40 % 0x40 :=
      toNat_ofNat (by omega)
    have third : (UInt8.ofNat (0x80 + char.toNat % 0x40)).toNat = 0x80 + char.toNat % 0x40 :=
      toNat_ofNat (by omega)
    simp only [List.cons_append, List.nil_append]
    rw [decodeFrom]
    simp only [step, lead, first]
    rw [if_neg (by omega), if_neg (by omega), if_neg (by omega), if_pos (by omega)]
    rw [List.nil_append, decodeFrom_more _ (by split <;> omega) (by split <;> omega),
      decodeFrom_last _ (by omega) (by omega), ofNat_code char (by omega)]
  · rename_i one two three
    have first : (UInt8.ofNat (0xF0 + char.toNat / 0x40000)).toNat = 0xF0 + char.toNat / 0x40000 :=
      toNat_ofNat (by omega)
    have second : (UInt8.ofNat (0x80 + char.toNat / 0x1000 % 0x40)).toNat = 0x80 + char.toNat / 0x1000 % 0x40 :=
      toNat_ofNat (by omega)
    have third : (UInt8.ofNat (0x80 + char.toNat / 0x40 % 0x40)).toNat = 0x80 + char.toNat / 0x40 % 0x40 :=
      toNat_ofNat (by omega)
    have fourth : (UInt8.ofNat (0x80 + char.toNat % 0x40)).toNat = 0x80 + char.toNat % 0x40 :=
      toNat_ofNat (by omega)
    simp only [List.cons_append, List.nil_append]
    rw [decodeFrom]
    simp only [step, lead, first]
    rw [if_neg (by omega), if_neg (by omega), if_neg (by omega), if_neg (by omega),
      if_pos (by omega)]
    rw [List.nil_append, decodeFrom_more _ (by split <;> omega) (by split <;> omega),
      decodeFrom_more _ (by omega) (by omega), decodeFrom_last _ (by omega) (by omega),
      ofNat_code char (by omega)]

theorem decode_encode_append (text : List Char) (rest : List UInt8) :
    decode (encode text ++ rest) = text ++ decode rest := by
  induction text with
  | nil => rfl
  | cons char text ih =>
    simp only [decode, encode, List.flatMap_cons, List.append_assoc] at ih ⊢
    rw [decodeFrom_encodeChar, ih, List.cons_append]

/-- Nothing is lost on the way to bytes and back. -/
theorem decode_encode (text : List Char) : decode (encode text) = text := by
  simpa only [List.append_nil, decode, decodeFrom, finish] using decode_encode_append text []

theorem encode_injective {left right : List Char} (same : encode left = encode right) :
    left = right := by
  rw [← decode_encode left, same, decode_encode]

theorem string?_bytes (text : String) : string? (bytes text) = some text := by
  simp only [string?, decode?, bytes, decode_encode, if_true, Option.map_some, String.ofList_toList]

theorem bytes_append (left right : String) : bytes (left ++ right) = bytes left ++ bytes right := by
  rw [bytes, String.toList_append, encode_append]; rfl

theorem bytes_injective {left right : String} (same : bytes left = bytes right) : left = right :=
  String.toList_inj.mp (encode_injective same)

theorem bytes_eq_nil_iff {text : String} : bytes text = [] ↔ text = "" :=
  ⟨fun none => bytes_injective none, fun none => none ▸ rfl⟩

theorem bytes_of_string? {bytes : List UInt8} {text : String} (decoded : string? bytes = some text) :
    Utf8.bytes text = bytes := by
  obtain ⟨chars, read, rfl⟩ := Option.map_eq_some_iff.mp decoded
  rw [Utf8.bytes, String.toList_ofList, encode_of_decode? read]

/-- A byte that continues a character. -/
def Continues (byte : UInt8) : Prop := 0x80 ≤ byte.toNat ∧ byte.toNat < 0xC0

/-- The bytes of a character: only the first of them does not continue one. -/
theorem encodeChar_shape (char : Char) : ∃ first rest,
    encodeChar char = first :: rest ∧ ¬ Continues first ∧ ∀ byte ∈ rest, Continues byte := by
  have valid := code_valid char
  simp only [encodeChar, Continues]
  split
  · refine ⟨_, _, rfl, ?_, by simp⟩
    rw [toNat_ofNat (by omega)]
    omega
  split
  · refine ⟨_, _, rfl, ?_, ?_⟩
    · rw [toNat_ofNat (by omega)]
      omega
    · simp only [List.mem_cons, List.not_mem_nil, or_false, forall_eq]
      rw [toNat_ofNat (by omega)]
      omega
  split
  · refine ⟨_, _, rfl, ?_, ?_⟩
    · rw [toNat_ofNat (by omega)]
      omega
    · simp only [List.mem_cons, List.not_mem_nil, or_false, forall_eq_or_imp, forall_eq]
      rw [toNat_ofNat (by omega), toNat_ofNat (by omega)]
      omega
  · refine ⟨_, _, rfl, ?_, ?_⟩
    · rw [toNat_ofNat (by omega)]
      omega
    · simp only [List.mem_cons, List.not_mem_nil, or_false, forall_eq_or_imp, forall_eq]
      rw [toNat_ofNat (by omega), toNat_ofNat (by omega), toNat_ofNat (by omega)]
      omega

/-- A byte below 0x80 is the whole of its character. -/
theorem encodeChar_ascii {char : Char} {byte : UInt8} (member : byte ∈ encodeChar char)
    (ascii : byte.toNat < 0x80) : encodeChar char = [byte] ∧ byte.toNat = char.toNat := by
  have valid := code_valid char
  by_cases one : char.toNat < 0x80
  · simp only [encodeChar, if_pos one, List.mem_singleton] at member ⊢
    subst member
    exact ⟨rfl, toNat_ofNat (by omega)⟩
  · exfalso
    simp only [encodeChar, if_neg one] at member
    have large : ∀ code, 0x80 ≤ code → code < 0x100 → byte ≠ UInt8.ofNat code := by
      rintro code low high rfl
      rw [toNat_ofNat high] at ascii
      omega
    split at member
    · simp only [List.mem_cons, List.not_mem_nil, or_false] at member
      rcases member with first | second
      · exact large _ (by omega) (by omega) first
      · exact large _ (by omega) (by omega) second
    split at member
    · simp only [List.mem_cons, List.not_mem_nil, or_false] at member
      rcases member with first | second | third
      · exact large _ (by omega) (by omega) first
      · exact large _ (by omega) (by omega) second
      · exact large _ (by omega) (by omega) third
    · simp only [List.mem_cons, List.not_mem_nil, or_false] at member
      rcases member with first | second | third | fourth
      · exact large _ (by omega) (by omega) first
      · exact large _ (by omega) (by omega) second
      · exact large _ (by omega) (by omega) third
      · exact large _ (by omega) (by omega) fourth

theorem mem_encode_ascii {char : Char} {byte : UInt8} {text : List Char}
    (ascii : byte.toNat < 0x80) (same : char.toNat = byte.toNat) :
    byte ∈ encode text ↔ char ∈ text := by
  rw [encode, List.mem_flatMap]
  constructor
  · rintro ⟨other, member, inside⟩
    have code := (encodeChar_ascii inside ascii).2
    rwa [← Char.toNat_inj.mp (same.trans code)] at member
  · refine fun member => ⟨char, member, ?_⟩
    rw [encodeChar, if_pos (by omega), same, UInt8.ofNat_toNat]
    exact List.mem_singleton_self _

theorem slash_mem_bytes {text : String} : 0x2F ∈ bytes text ↔ '/' ∈ text.toList :=
  mem_encode_ascii (by decide) (by decide)

/-- Bytes that stand at some offset of a text, the first of which continues no character, stand
between two characters. -/
theorem boundary_of_drop {text : List Char} {offset : Nat} {first : UInt8} {rest : List UInt8}
    (found : (encode text).drop offset = first :: rest) (starts : ¬ Continues first) :
    ∃ before after, text = before ++ after ∧ (encode before).length = offset ∧
      encode after = first :: rest := by
  induction text generalizing offset with
  | nil => simp [encode] at found
  | cons char text ih =>
    obtain ⟨lead, tail, shape, -, continues⟩ := encodeChar_shape char
    have unfolded : encode (char :: text) = encodeChar char ++ encode text := rfl
    by_cases start : offset = 0
    · exact ⟨[], char :: text, rfl, by simp [encode, start], by simpa [start] using found⟩
    by_cases inside : offset < (encodeChar char).length
    · -- An offset inside a character gives one of its continuation bytes.
      have tailLength : offset - 1 < tail.length := by
        simp only [shape, List.length_cons] at inside
        omega
      have continued : first ∈ tail := by
        have head := congrArg List.head? found
        rw [unfolded, List.drop_append_of_le_length (by omega), shape, List.head?_append,
          List.head?_drop, List.getElem?_cons, if_neg start, List.getElem?_eq_getElem tailLength] at head
        simp only [Option.some_or, List.head?_cons, Option.some.injEq] at head
        exact head ▸ List.getElem_mem tailLength
      exact absurd (continues first continued) starts
    · have later : (encode text).drop (offset - (encodeChar char).length) = first :: rest := by
        rw [unfolded, List.drop_append, List.drop_eq_nil_of_le (by omega), List.nil_append] at found
        exact found
      obtain ⟨before, after, parts, length, bytes⟩ := ih later
      refine ⟨char :: before, after, by rw [parts, List.cons_append], ?_, bytes⟩
      have longer : encode (char :: before) = encodeChar char ++ encode before := rfl
      rw [longer, List.length_append, length]
      omega

/-- A text's bytes occur in another's only where its characters do. -/
theorem encode_prefix_iff {marker text : List Char} :
    encode marker <+: encode text ↔ marker <+: text := by
  constructor
  · rintro ⟨rest, bytes⟩
    refine ⟨decode rest, ?_⟩
    rw [← decode_encode_append, bytes, decode_encode]
  · rintro ⟨rest, rfl⟩
    exact ⟨encode rest, (encode_append marker rest).symm⟩

theorem encode_drop_prefix {marker text : List Char} {offset : Nat} (some : marker ≠ [])
    (found : encode marker <+: (encode text).drop offset) :
    ∃ before after, text = before ++ marker ++ after ∧ (encode before).length = offset := by
  obtain ⟨char, marker, rfl⟩ := List.exists_cons_of_ne_nil some
  obtain ⟨first, tail, shape, starts, -⟩ := encodeChar_shape char
  obtain ⟨rest, bytes⟩ := found
  have leading : (encode text).drop offset = first :: (tail ++ encode marker ++ rest) := by
    rw [← bytes, encode, List.flatMap_cons, shape]
    simp only [List.cons_append, encode]
  obtain ⟨before, after, parts, length, same⟩ := boundary_of_drop leading starts
  have spelled : encode (char :: marker) <+: encode after :=
    ⟨rest, by rw [bytes, same, leading]⟩
  obtain ⟨after, rfl⟩ := encode_prefix_iff.mp spelled
  exact ⟨before, after, by rw [parts, List.append_assoc], length⟩

end Registrar.Utf8
