import Mathlib.Algebra.Ring.Nat
import MonorepoCheck.Text.Blank
import MonorepoCheck.Text.Digit

/-!
Numerals that were written are read back: the digits of a number spell it, padded or not, and a run
of digits ends where the text goes on without one.
-/
namespace MonorepoCheck.Text

theorem numeral_eq (digits : List Char) : numeral digits = Nat.ofDigitChars 10 digits 0 := rfl

theorem isAsciiDigit_eq (c : Char) : isAsciiDigit c = c.isDigit := by
  simp only [isAsciiDigit, Char.isDigit]
  rfl

theorem isBlank_digit {c : Char} (digit : isAsciiDigit c = true) : isBlank c = false := by
  have bounds : 48 ≤ c.toNat ∧ c.toNat ≤ 57 := by
    simp only [isAsciiDigit, Bool.and_eq_true, decide_eq_true_eq] at digit
    exact digit
  simp only [isBlank]
  simp
  omega

theorem numeral_decimal (n : Nat) : numeral (decimal n) = n := by
  rw [numeral_eq, decimal]
  exact Nat.ofDigitChars_ten_toDigits

theorem decimal_digits {n : Nat} {c : Char} (member : c ∈ decimal n) : isAsciiDigit c = true := by
  rw [isAsciiDigit_eq]
  exact Nat.isDigit_of_mem_toDigits (by decide) (by decide) member

theorem decimal_ne_nil (n : Nat) : decimal n ≠ [] := Nat.toDigits_ne_nil

theorem decimal_cons (n : Nat) :
    ∃ first more, decimal n = first :: more ∧ isAsciiDigit first = true := by
  obtain ⟨first, more, written⟩ := List.exists_cons_of_ne_nil (decimal_ne_nil n)
  exact ⟨first, more, written, decimal_digits (written ▸ List.mem_cons_self)⟩

theorem decimal_length_le {n places : Nat} (positive : 0 < places) (below : n < 10 ^ places) :
    (decimal n).length ≤ places :=
  (Nat.length_toDigits_le_iff (by decide) positive).mpr below

theorem decimal_length_mono {n m : Nat} (le : n ≤ m) : (decimal n).length ≤ (decimal m).length := by
  have positive : 0 < (decimal m).length := List.length_pos_iff.mpr (decimal_ne_nil m)
  have below : m < 10 ^ (decimal m).length :=
    (Nat.length_toDigits_le_iff (by decide) positive).mp (Nat.le_refl _)
  exact decimal_length_le positive (by omega)

theorem feed_decimal (n : Nat) : '\n' ∉ decimal n :=
  fun member => absurd (decimal_digits member) (by decide)

/-- Only zero is written with a zero in front. -/
theorem decimal_leading {n : Nat} {rest : List Char} (written : decimal n = '0' :: rest) :
    n = 0 := by
  induction n using Nat.strongRecOn generalizing rest with
  | _ n ih =>
      rw [decimal, Nat.toDigits_eq_if (by decide)] at written
      split at written
      · rename_i below
        have spelt := congrArg (·.map Char.toNat) written
        simp only [List.map_cons, List.map_nil, Nat.toNat_digitChar_of_lt_ten below] at spelt
        injection spelt with value
        have zero : '0'.toNat = 48 := rfl
        omega
      · rename_i large
        obtain ⟨first, more, shorter⟩ := List.exists_cons_of_ne_nil (decimal_ne_nil (n / 10))
        rw [show Nat.toDigits 10 (n / 10) = first :: more from shorter] at written
        injection written with head
        have := ih (n / 10) (by omega) (head ▸ shorter)
        omega

section Padded

variable {width n : Nat}

theorem paddedDecimal_digits {c : Char} (member : c ∈ paddedDecimal width n) :
    isAsciiDigit c = true := by
  rcases List.mem_append.mp member with padding | digit
  · rw [(List.mem_replicate.mp padding).2]
    decide
  · exact decimal_digits digit

theorem numeral_paddedDecimal : numeral (paddedDecimal width n) = n := by
  rw [paddedDecimal, numeral_eq, Nat.ofDigitChars_append, Nat.ofDigitChars_replicate_zero,
    Nat.mul_zero]
  exact numeral_decimal n

theorem paddedDecimal_ne_nil (width n : Nat) : paddedDecimal width n ≠ [] := by
  simp [paddedDecimal, decimal_ne_nil]

theorem paddedDecimal_length (positive : 0 < width) (below : n < 10 ^ width) :
    (paddedDecimal width n).length = width := by
  have short := decimal_length_le positive below
  simp only [paddedDecimal, List.length_append, List.length_replicate]
  omega

end Padded

section Runs

variable {p : Char → Bool} {run rest : List Char}

/-- A run of characters of a class is taken up to where the text goes on without one. -/
theorem takeWhile_run (all : ∀ c ∈ run, p c = true) (ends : rest.head?.any p = false) :
    (run ++ rest).takeWhile p = run := by
  rw [List.takeWhile_append_of_pos all]
  cases rest with
  | nil => simp
  | cons c rest => simp_all

theorem dropWhile_run (all : ∀ c ∈ run, p c = true) (ends : rest.head?.any p = false) :
    (run ++ rest).dropWhile p = rest := by
  rw [List.dropWhile_append_of_pos all]
  cases rest with
  | nil => simp
  | cons c rest => simp_all

end Runs

/-- Whether a text goes on with a digit. -/
def startsWithDigit (text : List Char) : Bool := text.head?.any isAsciiDigit

section Digits

variable {digits rest : List Char}

theorem takeWhile_digits (all : ∀ c ∈ digits, isAsciiDigit c = true)
    (ends : startsWithDigit rest = false) : (digits ++ rest).takeWhile isAsciiDigit = digits :=
  takeWhile_run all ends

theorem dropWhile_digits (all : ∀ c ∈ digits, isAsciiDigit c = true)
    (ends : startsWithDigit rest = false) : (digits ++ rest).dropWhile isAsciiDigit = rest :=
  dropWhile_run all ends

end Digits

/-- The value of a hexadecimal digit that was written. -/
theorem hexValue?_lowerHexDigit (n : Nat) : hexValue? (lowerHexDigit n) = some (n % 16) := by
  have all : ∀ d < 16, hexValue? (Nat.digitChar d) = some d := by decide
  exact all (n % 16) (Nat.mod_lt _ (by decide))

theorem hexValue?_upperHexDigit (n : Nat) : hexValue? (upperHexDigit n) = some (n % 16) := by
  have all : ∀ d < 16, hexValue? (upperHexDigit d) = some d := by decide
  rw [← all (n % 16) (Nat.mod_lt _ (by decide)), upperHexDigit, upperHexDigit, Nat.mod_mod]

end MonorepoCheck.Text
