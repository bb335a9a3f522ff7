import MonorepoCheck.Proofs.Text.ByteOrder
import MonorepoCheck.Text.Bytes

/-!
Bytes that are UTF-8 are decoded to the text that they encode. Characters are decoded one by one: the
first byte tells which bytes may follow, and those that do add the later digits of the code point.
-/
namespace MonorepoCheck.Text

/-- The bytes of a character. -/
def charBytes (c : Char) : Bytes :=
  (String.utf8EncodeChar c).map fun byte => Char.ofNat byte.toNat

theorem bytesOfText_eq (text : String) : bytesOfText text = text.toList.flatMap charBytes := by
  have bytes : text.toUTF8.data.toList = text.toList.flatMap String.utf8EncodeChar := utf8_eq text
  rw [bytesOfText, bytesOf, bytes, List.map_flatMap]
  rfl

section Characters

variable {code : Nat}

/-- A byte is the character of its number. -/
theorem toNat_byte {n : Nat} (small : n < 256) :
    (Char.ofNat (UInt8.ofNat n).toNat).toNat = n := by
  have valid : n.isValidChar := .inl (by omega)
  rw [UInt8.toNat_ofNat_of_lt' small, Char.ofNat, dif_pos valid]
  rfl

theorem code_valid (c : Char) :
    c.val.toNat < 0xD800 ∨ 0xDFFF < c.val.toNat ∧ c.val.toNat < 0x110000 := c.valid

/-- The bytes that may follow the first one of two. -/
theorem laterRanges_two (least : 0x7f < code) (most : code ≤ 0x7ff) :
    laterRanges (code / 64 + 0xc0) = [(0x80, 0xBF)] := by
  rw [laterRanges, if_pos (by omega)]

/-- Those after the first one of three leave out what two can encode, and the halves of pairs. -/
theorem laterRanges_three (least : 0x7ff < code) (most : code ≤ 0xffff)
    (valid : code < 0xD800 ∨ 0xDFFF < code) :
    ∃ low high, laterRanges (code / 64 / 64 + 0xe0) = [(low, high), (0x80, 0xBF)]
      ∧ low ≤ code / 64 % 64 + 0x80 ∧ code / 64 % 64 + 0x80 ≤ high := by
  unfold laterRanges
  split_ifs
  all_goals first
    | exact ⟨_, _, rfl, by omega, by omega⟩
    | omega

/-- Those after the first one of four leave out what three can encode, and what is too large. -/
theorem laterRanges_four (least : 0xffff < code) (most : code < 0x110000) :
    ∃ low high, laterRanges (code / 64 / 64 / 64 + 0xf0)
        = [(low, high), (0x80, 0xBF), (0x80, 0xBF)]
      ∧ low ≤ code / 64 / 64 % 64 + 0x80 ∧ code / 64 / 64 % 64 + 0x80 ≤ high := by
  unfold laterRanges
  split_ifs
  all_goals first
    | exact ⟨_, _, rfl, by omega, by omega⟩
    | omega

/-- A later byte adds a digit to the code point. -/
theorem decodeFrom_later {low high value : Nat} (wanted : List (Nat × Nat)) (rest : Bytes)
    (before : value = code / 64) (inside : low ≤ code % 64 + 0x80 ∧ code % 64 + 0x80 ≤ high) :
    decodeFrom ((low, high) :: wanted) value
        (Char.ofNat (UInt8.ofNat (code % 64 + 0x80)).toNat :: rest)
      = if wanted = [] then Char.ofNat code :: decodeFrom [] 0 rest
        else decodeFrom wanted code rest := by
  have number := toNat_byte (n := code % 64 + 0x80) (by omega)
  have same : value * 0x40 + (code % 64 + 0x80) % 0x40 = code := by omega
  rw [decodeFrom, number, if_pos inside, same]
  cases wanted <;> rfl

/-- The first of several bytes leaves a character begun. -/
theorem decodeFrom_first {first : Nat} {ranges : List (Nat × Nat)} (rest : Bytes)
    (large : ¬ first < 0x80) (byte : first < 256) (later : laterRanges first = ranges)
    (some' : ranges ≠ []) :
    decodeFrom [] 0 (Char.ofNat (UInt8.ofNat first).toNat :: rest)
      = decodeFrom ranges (leadBits (ranges.length + 1) first) rest := by
  rw [decodeFrom, decodeFrom.start, toNat_byte byte, if_neg large, later]
  cases ranges with
  | nil => exact absurd rfl some'
  | cons => rfl

end Characters

/-- The bytes of a character are read as that character. -/
theorem decodeFrom_charBytes (c : Char) (rest : Bytes) :
    decodeFrom [] 0 (charBytes c ++ rest) = c :: decodeFrom [] 0 rest := by
  have valid := code_valid c
  have whole : Char.ofNat c.val.toNat = c := Char.ofNat_toNat c
  rw [charBytes, encoding_eq]
  generalize c.val.toNat = code at valid whole
  unfold firstByte laterCount
  split_ifs with one two three
  all_goals
    simp only [laterBytes, List.map_cons, List.map_nil, List.cons_append, List.nil_append]
  · rw [decodeFrom, decodeFrom.start, toNat_byte (by omega), if_pos (by omega),
      UInt8.toNat_ofNat_of_lt' (Nat.lt_of_le_of_lt one (by decide)), whole]
  · rw [decodeFrom_first _ (by omega) (by omega) (laterRanges_two (by omega) two)
        (List.cons_ne_nil _ _),
      decodeFrom_later [] rest (by simp [leadBits]; omega) (by omega), if_pos rfl, whole]
  · obtain ⟨low, high, ranges, inside⟩ := laterRanges_three (by omega) three (by omega)
    rw [decodeFrom_first _ (by omega) (by omega) ranges (List.cons_ne_nil _ _),
      decodeFrom_later _ _ (by simp [leadBits]; omega) inside, if_neg (List.cons_ne_nil _ _),
      decodeFrom_later [] rest rfl (by omega), if_pos rfl, whole]
  · obtain ⟨low, high, ranges, inside⟩ := @laterRanges_four code (by omega) (by omega)
    rw [decodeFrom_first _ (by omega) (by omega) ranges (List.cons_ne_nil _ _),
      decodeFrom_later _ _ (by simp [leadBits]; omega) inside, if_neg (List.cons_ne_nil _ _),
      decodeFrom_later _ _ rfl (by omega), if_neg (List.cons_ne_nil _ _),
      decodeFrom_later [] rest rfl (by omega), if_pos rfl, whole]

theorem decodeFrom_flatMap (cs : List Char) : decodeFrom [] 0 (cs.flatMap charBytes) = cs := by
  induction cs with
  | nil => rw [List.flatMap_nil, decodeFrom]
  | cons c cs ih => rw [List.flatMap_cons, decodeFrom_charBytes, ih]

/-- Text is read back from its bytes. -/
theorem decode_bytesOfText (text : String) : decode (bytesOfText text) = text := by
  rw [decode, bytesOfText_eq, decodeFrom_flatMap, String.ofList_toList]

theorem bytesOfText_injective {a b : String} (same : bytesOfText a = bytesOfText b) : a = b := by
  rw [← decode_bytesOfText a, same, decode_bytesOfText]

theorem charBytes_injective {cs ds : List Char} (same : cs.flatMap charBytes = ds.flatMap charBytes) :
    cs = ds := by
  rw [← decodeFrom_flatMap cs, same, decodeFrom_flatMap]

/-- ASCII is its own byte. -/
theorem charBytes_ascii {c : Char} (plain : c.val.toNat ≤ 0x7f) : charBytes c = [c] := by
  rw [charBytes, encoding_eq, firstByte, laterCount, if_pos plain, if_pos plain]
  simp only [laterBytes, List.map_cons, List.map_nil,
    UInt8.toNat_ofNat_of_lt' (Nat.lt_of_le_of_lt plain (by decide))]
  exact congrArg (fun c => [c]) (Char.ofNat_toNat c)

theorem laterBytes_large (count code : Nat) :
    ∀ byte ∈ laterBytes count code, 0x80 ≤ byte.toNat := by
  induction count generalizing code with
  | zero => exact fun _ member => nomatch member
  | succ count ih =>
      intro byte member
      rcases List.mem_append.mp member with before | last
      · exact ih _ byte before
      · rw [List.mem_singleton.mp last, UInt8.toNat_ofNat_of_lt' (by change _ < 256; omega)]
        omega

/-- No other character has a byte of ASCII. -/
theorem eq_of_mem_charBytes {b c : Char} (member : b ∈ charBytes c) (plain : b.toNat ≤ 0x7f) :
    b = c := by
  by_cases ascii : c.val.toNat ≤ 0x7f
  · rw [charBytes_ascii ascii] at member
    exact List.mem_singleton.mp member
  · exfalso
    have large : ∀ byte ∈ String.utf8EncodeChar c, 0x80 ≤ byte.toNat := by
      intro byte listed
      rw [encoding_eq] at listed
      rcases List.mem_cons.mp listed with rfl | later
      · rw [UInt8.toNat_ofNat_of_lt' (firstByte_lt (code_lt c))]
        unfold firstByte
        split_ifs <;> omega
      · exact laterBytes_large _ _ byte later
    obtain ⟨byte, listed, rfl⟩ := List.mem_map.mp member
    have number := toNat_byte byte.toNat_lt
    rw [UInt8.ofNat_toNat] at number
    exact absurd (large byte listed) (by omega)

/-- Whether all bytes are ASCII, which spells itself. -/
def isPlain (bytes : Bytes) : Bool := bytes.all fun c => c.toNat < 0x80

theorem decodeFrom_plain {bytes : Bytes} (plain : isPlain bytes = true) (rest : Bytes) :
    decodeFrom [] 0 (bytes ++ rest) = bytes ++ decodeFrom [] 0 rest := by
  induction bytes with
  | nil => rfl
  | cons c later ih =>
      rw [isPlain, List.all_cons, Bool.and_eq_true, decide_eq_true_eq] at plain
      simp [decodeFrom, decodeFrom.start, plain.1, ih plain.2]

theorem decode_plain {bytes : Bytes} (plain : isPlain bytes = true) :
    decode bytes = String.ofList bytes := by
  have spelt := decodeFrom_plain plain []
  rw [decodeFrom, List.append_nil] at spelt
  rw [decode, spelt]

/-- A byte that starts no character is replaced. -/
theorem decode_stray {c : Char} (high : ¬ c.toNat < 0x80) (starts : laterRanges c.toNat = [])
    {front back : Bytes} (plain : isPlain front = true) (plainBack : isPlain back = true) :
    decode (front ++ c :: back) = String.ofList (front ++ replacement :: back) := by
  have spelt := decodeFrom_plain plainBack []
  rw [decodeFrom, List.append_nil] at spelt
  rw [decode, decodeFrom_plain plain, decodeFrom, decodeFrom.start, if_neg high, starts, spelt]

/-- Bytes that spell a text. -/
def IsUtf8 (bytes : Bytes) : Prop := ∃ text, bytesOfText text = bytes

theorem bytesOfText_decode {bytes : Bytes} (spelt : IsUtf8 bytes) :
    bytesOfText (decode bytes) = bytes := by
  obtain ⟨text, rfl⟩ := spelt
  rw [decode_bytesOfText]

end MonorepoCheck.Text
