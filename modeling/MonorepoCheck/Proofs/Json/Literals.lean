import MonorepoCheck.Json.Printer
import MonorepoCheck.Json.Reader
import MonorepoCheck.Proofs.Text.Numerals

/-!
Strings and integers that were written as JSON literals are read back.
-/
namespace MonorepoCheck.Json

open Text

section Strings

theorem joinPieces_chars (text : List Char) : joinPieces (text.map .char) = some text := by
  induction text with
  | nil => rfl
  | cons c text ih => simp [joinPieces, ih]

theorem ofPieces_chars (text : String) : ofPieces (text.toList.map .char) = some text := by
  simp [ofPieces, joinPieces_chars]

theorem hexUnit?_control {n : Nat} (control : n < 32) :
    hexUnit? '0' '0' (lowerHexDigit (n / 16)) (lowerHexDigit n) = some n := by
  have zero : hexValue? '0' = some 0 := by decide
  simp only [hexUnit?, zero, hexValue?_lowerHexDigit, Option.bind_eq_bind, Option.bind_some,
    Option.pure_def, Option.some.injEq]
  omega

theorem ofUnit_control {c : Char} (control : c.toNat < 32) : Piece.ofUnit c.toNat = .char c := by
  have low : ¬(0xD800 ≤ c.toNat ∧ c.toNat ≤ 0xDFFF) := by omega
  rw [Piece.ofUnit, if_neg low, Char.ofNat_toNat]

/-- Pieces with one more character in front. -/
def prepend (c : Char) (read : List Piece × List Char) : List Piece × List Char :=
  (.char c :: read.1, read.2)

theorem readPieces_letter {letter c : Char} (text : List Char) (stands : escaped? letter = some c)
    (notUnit : letter ≠ 'u') :
    readPieces ('\\' :: letter :: text) = (readPieces text).map (prepend c) := by
  rw [readPieces.eq_4 _ _ (fun _ _ _ _ _ same _ => notUnit same), stands]
  cases readPieces text <;> rfl

theorem readPieces_control {c : Char} (text : List Char) (control : c.toNat < 32) :
    readPieces ('\\' :: 'u' :: '0' :: '0' :: lowerHexDigit (c.toNat / 16)
      :: lowerHexDigit c.toNat :: text) = (readPieces text).map (prepend c) := by
  rw [readPieces, hexUnit?_control control]
  cases readPieces text <;> simp [prepend, ofUnit_control control]

theorem readPieces_plain {c : Char} (text : List Char) (notQuote : c ≠ '"')
    (notBackslash : c ≠ '\\') (notControl : ¬c.toNat < 32) :
    readPieces (c :: text) = (readPieces text).map (prepend c) := by
  rw [readPieces.eq_5 _ _ notQuote (fun _ _ _ _ _ same => absurd same notBackslash)
    (fun _ _ same => absurd same notBackslash)]
  simp only [notControl, notBackslash, decide_false, Bool.or_self]
  cases readPieces text <;> rfl

/-- An escaped character is read as itself. -/
theorem readPieces_escapeChar (c : Char) (text : List Char) :
    readPieces (escapeChar c ++ text) = (readPieces text).map (prepend c) := by
  have named (n : Nat) (same : c.toNat = n) : Char.ofNat n = c := by
    rw [← same, Char.ofNat_toNat]
  unfold escapeChar
  split
  case isTrue same => exact readPieces_letter text (by rw [same]; rfl) (by decide)
  case isFalse notQuote =>
  split
  case isTrue same => exact readPieces_letter text (by rw [same]; rfl) (by decide)
  case isFalse notBackslash =>
  split
  case isTrue same => exact readPieces_letter text (by rw [same]; rfl) (by decide)
  split
  case isTrue same => exact readPieces_letter text (by rw [same]; rfl) (by decide)
  split
  case isTrue same => exact readPieces_letter text (by rw [same]; rfl) (by decide)
  split
  case isTrue same => exact readPieces_letter text (by rw [← named 8 same]; rfl) (by decide)
  split
  case isTrue same => exact readPieces_letter text (by rw [← named 12 same]; rfl) (by decide)
  split
  case isTrue control => exact readPieces_control text control
  case isFalse notControl => exact readPieces_plain text notQuote notBackslash notControl

/-- What stands between the quotes of a literal is read up to its closing quote. -/
theorem readPieces_escaped (text rest : List Char) :
    readPieces (text.flatMap escapeChar ++ '"' :: rest) = some (text.map .char, rest) := by
  induction text with
  | nil => rw [List.flatMap_nil, List.nil_append, readPieces]; rfl
  | cons c text ih =>
      rw [List.flatMap_cons, List.append_assoc, readPieces_escapeChar, ih]
      rfl

end Strings

section Integers

/-- The parts of an integer as it is written. -/
def integerParts (n : Int) : NumberParts := ⟨decide (n < 0), Text.decimal n.natAbs, none, none⟩

/-- Whether a number may end where this text begins. -/
def endsNumber (rest : List Char) : Bool :=
  rest.head?.all fun c => !isAsciiDigit c && c != '.' && c != 'e' && c != 'E'

theorem endsNumber_digit {rest : List Char} (ends : endsNumber rest = true) :
    startsWithDigit rest = false := by
  cases rest with
  | nil => rfl
  | cons c rest => simp_all [endsNumber, startsWithDigit]

theorem readDigits_decimal (n : Nat) {rest : List Char} (ends : startsWithDigit rest = false) :
    readDigits (Text.decimal n ++ rest) = some (Text.decimal n, rest) := by
  rw [readDigits, takeWhile_digits (fun _ => decimal_digits) ends,
    dropWhile_digits (fun _ => decimal_digits) ends]
  cases written : Text.decimal n with
  | nil => exact absurd written (decimal_ne_nil n)
  | cons => rfl

theorem readWhole_decimal (n : Nat) {rest : List Char} (ends : startsWithDigit rest = false) :
    readWhole (Text.decimal n ++ rest) = some (Text.decimal n, rest) := by
  by_cases zero : n = 0
  · subst zero
    rw [show Text.decimal 0 = ['0'] from rfl]
    cases rest with
    | nil => rfl
    | cons c rest =>
        have notDigit : isAsciiDigit c = false := by simpa [startsWithDigit] using ends
        simp [readWhole, notDigit]
  · obtain ⟨first, more, written⟩ := List.exists_cons_of_ne_nil (decimal_ne_nil n)
    have notZero : first ≠ '0' := fun same => zero (decimal_leading (same ▸ written))
    have read := readDigits_decimal n ends
    rw [written, List.cons_append] at read ⊢
    rw [readWhole.eq_2 _ (fun c rest same => notZero (List.cons.inj same).1)]
    exact read

theorem readFraction_ends {rest : List Char} (ends : endsNumber rest = true) :
    readFraction rest = some (none, rest) := by
  cases rest with
  | nil => rfl
  | cons c rest =>
      have notPoint : c ≠ '.' := by
        rintro rfl
        simp [endsNumber] at ends
      rw [readFraction.eq_2 _ (fun rest same => notPoint (List.cons.inj same).1)]

theorem readExponent_ends {rest : List Char} (ends : endsNumber rest = true) :
    readExponent rest = some (none, rest) := by
  cases rest with
  | nil => rfl
  | cons c rest =>
      have notMark : ¬(c = 'e' ∨ c = 'E') := by
        rintro (rfl | rfl) <;> simp [endsNumber] at ends
      simp only [readExponent, if_neg notMark]

/-- A whole number in digits is read up to where it ends. -/
theorem readNumber_integerText (n : Int) {rest : List Char} (ends : endsNumber rest = true) :
    readNumber (integerText n ++ rest) = some (integerParts n, rest) := by
  have whole := readWhole_decimal n.natAbs (endsNumber_digit ends)
  by_cases negative : n < 0
  · simp [readNumber, integerText, integerParts, negative, whole, readFraction_ends ends,
      readExponent_ends ends]
  · obtain ⟨first, more, written⟩ := List.exists_cons_of_ne_nil (decimal_ne_nil n.natAbs)
    have notSign : first ≠ '-' := by
      rintro rfl
      have digit := decimal_digits (n := n.natAbs) (c := '-') (by simp [written])
      exact absurd digit (by decide)
    rw [integerText, if_neg negative, readNumber]
    · simp [integerParts, negative, whole, readFraction_ends ends, readExponent_ends ends]
    · intro rest' same
      rw [written] at same
      exact notSign (List.cons.inj same).1

/-- What is kept of a number while its digits are read is a machine word. -/
theorem appendDigits_word (digits : List Char) {start : Nat} (word : start < Nat.pow 2 64) :
    (appendDigits start digits).1 < Nat.pow 2 64
      ∧ (appendDigits start digits).2 ≤ digits.length := by
  induction digits generalizing start with
  | nil => exact ⟨word, Nat.le_refl 0⟩
  | cons c digits ih =>
      simp only [appendDigits]
      split
      case isTrue longer => exact ⟨(ih longer).1, Nat.le_succ_of_le (ih longer).2⟩
      case isFalse => exact ⟨word, Nat.le_refl _⟩

theorem roundQuotient_le (n unit : Nat) : Binary.roundQuotient n unit ≤ n / unit + 1 := by
  simp only [Binary.roundQuotient]
  split <;> omega

/-- Rounding a machine word to 53 binary digits moves it by less than the twelfth power of two. -/
theorem roundTo_le {n : Nat} (within : n < Nat.pow 2 64) :
    Binary.roundTo 53 n ≤ n + Nat.pow 2 11 := by
  have bits : Binary.bitLength n ≤ 64 := by
    unfold Binary.bitLength
    split
    · decide
    · rename_i nonzero
      have := (Nat.log2_lt nonzero).mpr within
      omega
  have unit : Nat.pow 2 (Binary.bitLength n - 53) ≤ Nat.pow 2 11 :=
    Nat.pow_le_pow_right (by decide) (by omega)
  have rounded := Nat.mul_le_mul_right (Nat.pow 2 (Binary.bitLength n - 53))
    (roundQuotient_le n (Nat.pow 2 (Binary.bitLength n - 53)))
  have below := Nat.div_mul_le_self n (Nat.pow 2 (Binary.bitLength n - 53))
  rw [Nat.add_mul, Nat.one_mul] at rounded
  simp only [Binary.roundTo]
  omega

theorem roundTo_powers : ∀ zeros : Fin 40,
    Binary.roundTo 53 (Nat.pow 10 zeros) < Nat.pow 2 131 := by
  decide +kernel

/-- Integers of two machine words are in the range of double precision. -/
theorem integerParts_inRange {n : Int} (within : n.natAbs < Nat.pow 2 128) :
    (integerParts n).inRange = true := by
  have short : (Text.decimal n.natAbs).length ≤ 39 :=
    decimal_length_le (by decide) (Nat.lt_trans within (by decide +kernel))
  obtain ⟨word, few⟩ := @appendDigits_word (Text.decimal n.natAbs) 0 (by decide)
  have scaled : (integerParts n).scaled = ((appendDigits 0 (Text.decimal n.natAbs)).1,
      ((appendDigits 0 (Text.decimal n.natAbs)).2 : Int)) := by
    simp [NumberParts.scaled, integerParts, appendDigits]
  -- at most 39 digits are left out, so the power of ten is far from the limit
  generalize (appendDigits 0 (Text.decimal n.natAbs)).1 = significand at word scaled
  generalize (appendDigits 0 (Text.decimal n.natAbs)).2 = zeros at few scaled
  have rounded := roundTo_le word
  have power := roundTo_powers ⟨zeros, by omega⟩
  have limit : (Nat.pow 2 64 + Nat.pow 2 11) * Nat.pow 2 131 < doubleLimit := by decide +kernel
  have product : Binary.roundTo 53 significand * Binary.roundTo 53 (Nat.pow 10 zeros) < doubleLimit :=
    Nat.lt_of_le_of_lt (Nat.mul_le_mul (by omega) (Nat.le_of_lt power)) limit
  have small : (zeros : Int) ≤ 308 := by omega
  simp only [NumberParts.inRange, scaled, Int.toNat_natCast, decide_eq_true product,
    decide_eq_true small]
  simp

/-- An integer is read as itself, unless it is past the range of double precision. -/
theorem integerParts_value (n : Int) :
    (integerParts n).value = if (integerParts n).inRange then .integer n else .unreadable := by
  have spelt := numeral_decimal n.natAbs
  by_cases inside : (integerParts n).inRange
  · by_cases negative : n < 0
    · have nonzero : n.natAbs ≠ 0 := by omega
      have same : -(n.natAbs : Int) = n := by omega
      rw [if_pos inside, NumberParts.value, inside]
      simp only [integerParts, spelt, negative, nonzero, same, Bool.not_true, Bool.false_eq_true,
        Option.isSome_none, Bool.or_self, decide_true, if_true, if_false]
    · have same : (n.natAbs : Int) = n := by omega
      rw [if_pos inside, NumberParts.value, inside]
      simp only [integerParts, spelt, negative, same, Bool.not_true, Bool.false_eq_true,
        Option.isSome_none, Bool.or_self, decide_false, if_false]
  · simp [NumberParts.value, inside]

end Integers

end MonorepoCheck.Json
