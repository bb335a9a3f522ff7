import MonorepoCheck.Proofs.Toml.Quoted
import MonorepoCheck.Toml.Reader

/-!
The value of a field is read back from what was written for it, when its line ends there.
-/
namespace MonorepoCheck.Toml

open Text

section Numbers

variable {mark : Char} {digits rest : List Char}

/-- Characters that end the digits of a number and do not make them part of a date or a time. -/
def endsDigits (c : Char) : Bool := !isAsciiDigit c && c != '_' && c != '-' && c != ':'

theorem readMoreDigits_ends (rest : List Char) (all : ∀ c ∈ digits, isAsciiDigit c = true)
    (ends : endsDigits mark = true) :
    readMoreDigits isAsciiDigit (digits ++ mark :: rest) = some (digits, mark :: rest) := by
  simp only [endsDigits, Bool.and_eq_true, Bool.not_eq_true', bne_iff_ne] at ends
  obtain ⟨⟨⟨noDigit, noScore⟩, _⟩, _⟩ := ends
  induction digits with
  | nil =>
      rw [List.nil_append, readMoreDigits.eq_3 _ _ _ (by simp [noScore]) (by simp [noScore]),
        noDigit]
      rfl
  | cons c digits ih =>
      have digit := all c List.mem_cons_self
      have other : c ≠ '_' := by
        rintro rfl
        exact absurd digit (by decide)
      have later := ih fun d member => all d (List.mem_cons_of_mem c member)
      rw [List.cons_append, readMoreDigits.eq_3 _ _ _ (by simp [other]) (by simp [other]), digit,
        later]
      rfl

theorem readDigits_ends (rest : List Char) (some' : digits ≠ [])
    (all : ∀ c ∈ digits, isAsciiDigit c = true) (ends : endsDigits mark = true) :
    readDigits isAsciiDigit (digits ++ mark :: rest) = some (digits, mark :: rest) := by
  cases digits with
  | nil => exact absurd rfl some'
  | cons c digits =>
      have later := readMoreDigits_ends rest
        (fun d member => all d (List.mem_cons_of_mem c member)) ends
      simp [readDigits, all c List.mem_cons_self, later]

theorem readWhole_ends (n : Nat) (ends : endsDigits mark = true) :
    readWhole (decimal n ++ mark :: rest) = some (decimal n, mark :: rest) := by
  by_cases zero : n = 0
  · subst zero
    rfl
  · obtain ⟨first, more, written⟩ := List.exists_cons_of_ne_nil (decimal_ne_nil n)
    have notZero : first ≠ '0' := fun same => zero (decimal_leading (same ▸ written))
    have reading := readDigits_ends rest (decimal_ne_nil n) (fun _ => decimal_digits) ends
    rw [written, List.cons_append] at reading ⊢
    rw [readWhole.eq_2 _ (fun _ same => notZero (List.cons.inj same).1)]
    exact reading

/-- A field of a date or a time lies within the digits of a number. -/
theorem readField_ends {count least most value : Nat} {next : Char} {after : List Char}
    (all : ∀ c ∈ digits, isAsciiDigit c = true) (ends : endsDigits mark = true)
    (read : readField count least most (digits ++ mark :: rest) = some (value, next :: after)) :
    endsDigits next = true ∨ isAsciiDigit next = true := by
  simp only [readField] at read
  split at read
  case isFalse => cases read
  case isTrue conditions =>
    simp only [Bool.and_eq_true, decide_eq_true_eq] at conditions
    obtain ⟨⟨⟨_, within⟩, _⟩, _⟩ := conditions
    have left : (digits ++ mark :: rest).drop count = next :: after := by
      injection read with read
      exact (Prod.mk.inj read).2
    have short : count ≤ digits.length := by
      by_contra longer
      have member : mark ∈ (digits ++ mark :: rest).take count := by
        rw [List.take_append, List.mem_append]
        right
        obtain ⟨more, excess⟩ := Nat.exists_eq_succ_of_ne_zero
          (show count - digits.length ≠ 0 by omega)
        simp [excess]
      have digit := List.all_eq_true.mp within mark member
      simp [endsDigits, digit] at ends
    rw [List.drop_append_of_le_length short] at left
    cases later : digits.drop count with
    | nil =>
        rw [later] at left
        exact .inl (by injection left with same; exact same ▸ ends)
    | cons c more =>
        rw [later] at left
        injection left with same
        exact .inr (same ▸ all c (List.mem_of_mem_drop (later ▸ List.mem_cons_self)))

theorem readMoment_ends (all : ∀ c ∈ digits, isAsciiDigit c = true)
    (ends : endsDigits mark = true) : readMoment (digits ++ mark :: rest) = .absent := by
  have time : readTime (digits ++ mark :: rest) = .absent := by
    unfold readTime
    split
    case h_1 found => exact absurd (readField_ends all ends found) (by decide)
    case h_2 => rfl
  unfold readMoment
  split
  case h_1 found => exact absurd (readField_ends all ends found) (by decide)
  case h_2 => exact time

theorem readSign_decimal (n : Nat) (rest : List Char) :
    readSign (decimal n ++ rest) = (false, decimal n ++ rest) := by
  obtain ⟨first, more, written, digit⟩ := decimal_cons n
  rw [written, List.cons_append, readSign.eq_3]
  · rintro _ ⟨⟩
    exact absurd digit (by decide)
  · rintro _ ⟨⟩
    exact absurd digit (by decide)

theorem readFloat_decimal (n : Nat) (rest : List Char) :
    readFloat (decimal n ++ rest) = readFraction false (decimal n ++ rest) := by
  obtain ⟨first, more, written, digit⟩ := decimal_cons n
  rw [readFloat, readSign_decimal]
  dsimp only
  rw [written, List.cons_append]
  split
  case h_1 same =>
    injection same with same
    exact absurd (same ▸ digit) (by decide)
  case h_2 same =>
    injection same with same
    exact absurd (same ▸ digit) (by decide)
  case h_3 => rfl

/-- A number that begins with a zero ends there. -/
theorem decimal_zero {n : Nat} {second : Char} {more : List Char}
    (text : decimal n ++ mark :: rest = '0' :: second :: more) : second = mark := by
  cases written : decimal n with
  | nil => exact absurd written (decimal_ne_nil n)
  | cons first digits =>
      rw [written, List.cons_append] at text
      injection text with zero text
      obtain rfl := decimal_leading (zero ▸ written)
      obtain ⟨_, rfl⟩ := List.cons.inj (written.symm.trans (rfl : decimal 0 = ['0']))
      exact (List.cons.inj text).1.symm

theorem checked_count {n : Nat} (fits : n < Nat.pow 2 63) (rest : List Char) :
    checked n rest = some ((n : Int), rest) := by
  have limit : Nat.pow 2 63 = 0x8000000000000000 := rfl
  have word : inWord n = true := by
    simp only [inWord, Bool.and_eq_true, decide_eq_true_eq]
    omega
  rw [checked, if_pos word]

theorem readInteger_decimal {n : Nat} (fits : n < Nat.pow 2 63) (rest : List Char) :
    readInteger (decimal n ++ '\n' :: rest) = some ((n : Int), '\n' :: rest) := by
  rw [readInteger.eq_4, readSign_decimal]
  · dsimp only
    rw [readWhole_ends n (by decide), Option.bind_eq_bind, Option.bind_some]
    dsimp only
    rw [if_neg (by decide), numeral_decimal]
    exact checked_count fits _
  · exact fun _ text => absurd (decimal_zero text) (by decide)
  · exact fun _ text => absurd (decimal_zero text) (by decide)
  · exact fun _ text => absurd (decimal_zero text) (by decide)

/-- A count that a machine word holds is read at the end of its line. -/
theorem readNumber_decimal {n : Nat} (fits : n < Nat.pow 2 63) (rest : List Char) :
    readNumber (decimal n ++ '\n' :: rest) = some (.integer n, '\n' :: rest) := by
  have ends : endsDigits '\n' = true := by decide
  have float : readFloat (decimal n ++ '\n' :: rest) = .absent := by
    rw [readFloat_decimal, readFraction, readWhole_ends n ends]
    rfl
  rw [readNumber, readMoment_ends (fun _ => decimal_digits) ends, float,
    readInteger_decimal fits]
  rfl

/-- A number that is written with a point and comes back from its digits. -/
structure Positional (value : Binary.Number) (whole : Nat) (fraction : List Char) : Prop where
  written : floatText value = decimal whole ++ '.' :: fraction
  filled : fraction ≠ []
  digits : fraction.all isAsciiDigit = true
  exact : floatValue false (decimal whole) fraction 0 = Binary.double.convert value
  finite : Binary.double.convert value ≠ .infinite false

instance {value : Binary.Number} {whole : Nat} {fraction : List Char} :
    Decidable (Positional value whole fraction) :=
  decidable_of_iff
    (floatText value = decimal whole ++ '.' :: fraction ∧ fraction ≠ []
      ∧ fraction.all isAsciiDigit = true
      ∧ floatValue false (decimal whole) fraction 0 = Binary.double.convert value
      ∧ Binary.double.convert value ≠ .infinite false)
    ⟨fun ⟨written, filled, digits, exact, finite⟩ => ⟨written, filled, digits, exact, finite⟩,
      fun ⟨written, filled, digits, exact, finite⟩ => ⟨written, filled, digits, exact, finite⟩⟩

theorem Positional.readNumber {value : Binary.Number} {whole : Nat} {fraction : List Char}
    (positional : Positional value whole fraction) (rest : List Char) :
    readNumber (floatText value ++ '\n' :: rest)
      = some (.float (Binary.double.convert value), '\n' :: rest) := by
  have point : endsDigits '.' = true := by decide
  have ends : endsDigits '\n' = true := by decide
  have float : readFraction false (decimal whole ++ '.' :: (fraction ++ '\n' :: rest))
      = .found (Binary.double.convert value) ('\n' :: rest) := by
    have digits := readDigits_ends rest positional.filled
      (List.all_eq_true.mp positional.digits) ends
    rw [readFraction, readWhole_ends whole point]
    simp [digits, positional.exact, positional.finite, isExponentMark]
  rw [positional.written, List.append_assoc, List.cons_append, Toml.readNumber,
    readMoment_ends (fun _ => decimal_digits) point, readFloat_decimal, float]

end Numbers

section Values

variable {depth fuel : Nat} {text rest : List Char}

/-- A text that begins with what is neither blank nor the start of a comment. -/
def StartsValue (text : List Char) : Prop :=
  ∃ c more, text = c :: more ∧ isSpace c = false ∧ c ≠ '#' ∧ c ≠ '\n' ∧ c ≠ '\r'

theorem skipSpace_blanks {blanks : List Char} (all : ∀ c ∈ blanks, isSpace c = true)
    (starts : StartsValue text) : skipSpace (blanks ++ text) = text := by
  obtain ⟨c, more, rfl, notBlank, _⟩ := starts
  rw [skipSpace, List.dropWhile_append_of_pos all,
    List.dropWhile_cons_of_neg (by simp [notBlank])]

theorem skipAll_value (fuel : Nat) {blanks : List Char} (all : ∀ c ∈ blanks, isSpace c = true)
    (starts : StartsValue text) : skipAll (fuel + 1) (blanks ++ text) = some text := by
  have start := skipSpace_blanks all starts
  obtain ⟨c, more, rfl, _, notMark, notFeed, notReturn⟩ := starts
  have within : afterLineEnd? (c :: more) = none :=
    afterLineEnd?_of_head (by simpa using notFeed) (by simpa using notReturn)
  rw [skipAll, start]
  split
  case h_1 same => exact absurd (List.cons.inj same).1 notMark
  case h_2 => rw [within]

theorem skipAll_feed (fuel : Nat) (text : List Char) :
    skipAll (fuel + 1) ('\n' :: text) = skipAll fuel text := rfl

theorem skipAll_line {blanks : List Char} (all : ∀ c ∈ blanks, isSpace c = true)
    (starts : StartsValue text) :
    skipAll (('\n' :: (blanks ++ text)).length + 1) ('\n' :: (blanks ++ text)) = some text := by
  rw [skipAll_feed]
  exact skipAll_value _ all starts

theorem quote_head (text : String) :
    ∃ c more, quote text = c :: more ∧ (c = '"' ∨ c = '\'') := by
  unfold quote
  dsimp only
  repeat' split
  all_goals exact ⟨_, _, rfl, by decide⟩

theorem quote_starts (text : String) (rest : List Char) : StartsValue (quote text ++ rest) := by
  obtain ⟨c, more, written, mark⟩ := quote_head text
  refine ⟨c, more ++ rest, by rw [written, List.cons_append], ?_⟩
  rcases mark with rfl | rfl <;> decide

/-- What begins with neither a bracket nor a letter is a quoted text or a number. -/
theorem readValue_scalar (depth fuel : Nat) {c : Char} (rest : List Char)
    (other : ("[\x7btfin".toList.all fun opening => c != opening) = true) :
    readValue depth (fuel + 1) (c :: rest)
      = if c = '"' ∨ c = '\'' then
          (readQuoted (c :: rest)).map fun (text, rest) => (.string text, rest)
        else readNumber (c :: rest) := by
  have apart {opening : Char} (member : opening ∈ "[\x7btfin".toList) : c ≠ opening :=
    bne_iff_ne.mp (List.all_eq_true.mp other opening member)
  rw [readValue]
  · exact apart (by decide)
  · exact apart (by decide)
  all_goals exact fun _ same => absurd same (apart (by decide))

theorem readValue_quote (depth fuel : Nat) (text : String) (rest : List Char)
    (double : rest.head? ≠ some '"') (single : rest.head? ≠ some '\'') :
    readValue depth (fuel + 1) (quote text ++ rest) = some (.string text, rest) := by
  have reading := readQuoted_quote text double single
  obtain ⟨c, more, written, mark⟩ := quote_head text
  have other : ("[\x7btfin".toList.all fun opening => c != opening) = true := by
    rcases mark with rfl | rfl <;> decide
  rw [written, List.cons_append] at reading ⊢
  rw [readValue_scalar depth fuel _ other, if_pos mark, reading, Option.map_some]

theorem readValue_number (depth fuel n : Nat) (rest : List Char) :
    readValue depth (fuel + 1) (decimal n ++ rest) = readNumber (decimal n ++ rest) := by
  obtain ⟨first, more, written, digit⟩ := decimal_cons n
  have apart {c : Char} (mark : isAsciiDigit c = false) : first ≠ c := by
    rintro rfl
    simp [mark] at digit
  have words : ("[\x7btfin".toList.all fun opening => !isAsciiDigit opening) = true := by decide
  have other : ("[\x7btfin".toList.all fun opening => first != opening) = true :=
    List.all_eq_true.mpr fun opening member => bne_iff_ne.mpr
      (apart ((Bool.not_eq_true' _).mp (List.all_eq_true.mp words opening member)))
  rw [written, List.cons_append, readValue_scalar depth fuel _ other,
    if_neg (not_or.mpr ⟨apart (by decide), apart (by decide)⟩)]

end Values

section Lists

variable {depth fuel : Nat} {text rest : List Char}

/-- A list that starts with a quoted text and goes on after it. -/
theorem readItems_comma {item : String}
    (start : skipAll (text.length + 1) text = some (quote item ++ ',' :: rest)) :
    readItems depth (fuel + 2) text
      = (readItems depth (fuel + 1) rest).map fun (more, rest) => (.string item :: more, rest) := by
  have reading := readValue_quote depth fuel item (',' :: rest) (by simp) (by simp)
  have comma : skipAll (rest.length + 2) (',' :: rest) = some (',' :: rest) := rfl
  obtain ⟨c, more, written, mark⟩ := quote_head item
  rw [written, List.cons_append] at start reading
  have notClosed : c ≠ ']' := by rcases mark with rfl | rfl <;> decide
  rw [readItems, start]
  simp only [Option.bind_eq_bind, Option.bind_some, List.cons.injEq, notClosed, false_and, imp_self,
    implies_true, reading, List.length_cons, comma]
  cases readItems depth (fuel + 1) rest <;> rfl

/-- A list that ends after its one quoted text. -/
theorem readItems_last {item : String}
    (start : skipAll (text.length + 1) text = some (quote item ++ ']' :: rest)) :
    readItems depth (fuel + 2) text = some ([.string item], rest) := by
  have reading := readValue_quote depth fuel item (']' :: rest) (by simp) (by simp)
  have closing : skipAll (rest.length + 2) (']' :: rest) = some (']' :: rest) := rfl
  obtain ⟨c, more, written, mark⟩ := quote_head item
  rw [written, List.cons_append] at start reading
  have notClosed : c ≠ ']' := by rcases mark with rfl | rfl <;> decide
  rw [readItems, start]
  simp [notClosed, reading, closing]

/-- One item of a list of several lines. -/
def itemLine (text : String) : List Char := "    ".toList ++ quote text ++ [',', '\n']

/-- The items of a list, each on a line of its own, up to the closing bracket. -/
theorem readItems_lines (depth fuel : Nat) (texts : List String) (rest : List Char)
    (enough : texts.length < fuel) :
    readItems depth fuel ('\n' :: (texts.flatMap itemLine ++ ']' :: rest))
      = some (texts.map .string, rest) := by
  induction texts generalizing fuel with
  | nil =>
      cases fuel with
      | zero => omega
      | succ fuel => rfl
  | cons text texts ih =>
      match fuel with
      | 0 => omega
      | 1 => simp at enough
      | fuel + 2 =>
          have blanks : ∀ c ∈ "    ".toList, isSpace c = true := List.all_eq_true.mp (by decide)
          have layout : (text :: texts).flatMap itemLine ++ ']' :: rest
              = "    ".toList
                ++ (quote text ++ ',' :: '\n' :: (texts.flatMap itemLine ++ ']' :: rest)) := by
            simp [itemLine]
          have start := skipAll_line blanks
            (quote_starts text (',' :: '\n' :: (texts.flatMap itemLine ++ ']' :: rest)))
          rw [← layout] at start
          rw [readItems_comma start, ih _ (by simpa using enough)]
          rfl

theorem listText_lines (first second : String) (more : List String) :
    listText ((first :: second :: more).map quote)
      = '[' :: '\n' :: ((first :: second :: more).flatMap itemLine ++ [']']) := by
  have lines : more.flatMap itemLine
      = (more.map quote).flatMap (fun item => "    ".toList ++ item ++ [',', '\n']) := by
    rw [List.flatMap_map]
    rfl
  simp [listText, lines, itemLine]

theorem length_le_listText (texts : List String) :
    texts.length ≤ (listText (texts.map quote)).length := by
  match texts with
  | [] => exact Nat.zero_le _
  | [text] => simp [listText]
  | first :: second :: more =>
      have lines : ∀ texts : List String, texts.length ≤ (texts.flatMap itemLine).length := by
        intro texts
        induction texts with
        | nil => exact Nat.le_refl _
        | cons text texts ih =>
            rw [List.flatMap_cons, List.length_append, itemLine]
            simp only [List.length_cons, List.length_append]
            omega
      have := lines (first :: second :: more)
      rw [listText_lines]
      simp only [List.length_cons, List.length_append] at this ⊢
      omega

/-- A list of texts is read back, on one line or on several. -/
theorem readValue_listText (texts : List String) (rest : List Char)
    (enough : texts.length + 1 < fuel) :
    readValue 0 fuel (listText (texts.map quote) ++ rest)
      = some (.array (texts.map .string), rest) := by
  obtain ⟨fuel, rfl⟩ : ∃ more, fuel = more + 1 := ⟨fuel - 1, by omega⟩
  have shallow : ¬depthLimit ≤ 0 + 1 := by decide
  have opened (text : List Char) : readValue 0 (fuel + 1) ('[' :: text)
      = (readItems 1 fuel text).map fun (items, rest) => (.array items, rest) := by
    rw [readValue, if_neg shallow]
    cases readItems (0 + 1) fuel text <;> rfl
  match texts with
  | [] =>
      obtain ⟨fuel, rfl⟩ : ∃ more, fuel = more + 1 := ⟨fuel - 1, by omega⟩
      rfl
  | [text] =>
      obtain ⟨fuel, rfl⟩ : ∃ more, fuel = more + 2 := ⟨fuel - 2, by simp at enough; omega⟩
      have start := skipAll_value (quote text ++ ']' :: rest).length
        (List.forall_mem_nil _) (quote_starts text (']' :: rest))
      have layout : listText ([text].map quote) ++ rest = '[' :: (quote text ++ ']' :: rest) := by
        simp [listText]
      rw [layout, opened, readItems_last start]
      rfl
  | first :: second :: more =>
      have reading := readItems_lines 1 fuel (first :: second :: more) rest (by omega)
      have layout : listText ((first :: second :: more).map quote) ++ rest
          = '[' :: '\n' :: ((first :: second :: more).flatMap itemLine ++ ']' :: rest) := by
        rw [listText_lines]
        simp
      rw [layout, opened, reading]
      rfl

end Lists

section Fields

/-- What is read for a field. -/
def Field.value : Field → Toml
  | .text value => .string value
  | .texts value => .array (value.map .string)
  | .count value => .integer value
  | .bool value => .bool value
  | .float value => .float (Binary.double.convert value)

/-- Whether a field can be read back: a count has to fit into a signed word of 64 bits, and a float
has to be one that is written with a point. -/
def Field.Readable : Field → Prop
  | .count value => value < Nat.pow 2 63
  | .float value => ∃ whole fraction, Positional value whole fraction
  | _ => True

theorem Field.readValue_print {field : Field} (readable : field.Readable) {fuel : Nat}
    (rest : List Char) (enough : field.print.length + 1 < fuel) :
    readValue 0 fuel (field.print ++ '\n' :: rest) = some (field.value, '\n' :: rest) := by
  obtain ⟨more, rfl⟩ : ∃ more, fuel = more + 1 := ⟨fuel - 1, by omega⟩
  cases field with
  | text value => exact readValue_quote 0 more value _ (by simp) (by simp)
  | texts value =>
      have := length_le_listText value
      exact readValue_listText value _ (Nat.lt_of_le_of_lt (by simpa [print] using this) enough)
  | count value =>
      rw [print, readValue_number, readNumber_decimal readable]
      rfl
  | bool value => cases value <;> rfl
  | float value =>
      obtain ⟨whole, fraction, positional⟩ := readable
      have reading := positional.readNumber rest
      rw [positional.written, List.append_assoc] at reading
      rw [print, positional.written, List.append_assoc, readValue_number, reading]
      rfl

end Fields
end MonorepoCheck.Toml
