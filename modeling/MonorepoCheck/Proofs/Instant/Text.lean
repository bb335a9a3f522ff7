import MonorepoCheck.Instant.Text
import MonorepoCheck.Proofs.Instant.Calendar
import MonorepoCheck.Proofs.Text.Numerals

/-!
An instant that was written is read back, to the nanosecond.
-/
namespace MonorepoCheck.Instant

open Text

theorem trimStart_solid {c : Char} {rest : List Char} (solid : isBlank c = false) :
    trimStart (c :: rest) = c :: rest := by
  simp [trimStart, solid]

section Fields

variable {digits rest : List Char} {most n : Nat}

theorem readUpTo_digits (all : ∀ c ∈ digits, isAsciiDigit c = true) (some' : digits ≠ [])
    (few : digits.length ≤ most) (ends : startsWithDigit rest = false) :
    readUpTo most (digits ++ rest) = some (digits, rest) := by
  rw [readUpTo, takeWhile_digits all ends, List.take_of_length_le few]
  cases digits with
  | nil => exact absurd rfl some'
  | cons c digits => simp

theorem trimStart_padded {width : Nat} :
    trimStart (paddedDecimal width n ++ rest) = paddedDecimal width n ++ rest := by
  cases written : paddedDecimal width n with
  | nil => exact absurd written (paddedDecimal_ne_nil width n)
  | cons c digits =>
      have member : c ∈ paddedDecimal width n := by simp [written]
      have digit : isAsciiDigit c = true := paddedDecimal_digits member
      exact trimStart_solid (isBlank_digit digit)

theorem readUpTo_padded {width : Nat} (few : (paddedDecimal width n).length ≤ most)
    (ends : startsWithDigit rest = false) :
    readUpTo most (paddedDecimal width n ++ rest) = some (paddedDecimal width n, rest) :=
  readUpTo_digits (fun _ => paddedDecimal_digits) (paddedDecimal_ne_nil width n) few ends

theorem readField_padded (positive : 0 < most) (below : n < 10 ^ most)
    (ends : startsWithDigit rest = false) :
    readField most (paddedDecimal most n ++ rest) = some (n, rest) := by
  have length := paddedDecimal_length positive below
  rw [readField, trimStart_padded, readUpTo_padded (by omega) ends]
  simp [numeral_paddedDecimal]

theorem readMark_self {mark : Char} (solid : isBlank mark = false) :
    readMark mark (mark :: rest) = some rest := by
  simp [readMark, trimStart_solid solid, after?]

end Fields

/-- A year is read up to the mark after it, whatever its sign and its length. -/
theorem readYear_yearText (year : Int) (rest : List Char) :
    readYear (yearText year ++ '-' :: rest) = some (year, '-' :: rest) := by
  have ends : startsWithDigit ('-' :: rest) = false := by simp [startsWithDigit, isAsciiDigit]
  by_cases short : 0 ≤ year ∧ year ≤ 9999
  -- a year of four digits has no sign, so its first character is a digit
  · have below : year.toNat < 10 ^ 4 := by omega
    have length := paddedDecimal_length (by decide : 0 < 4) below
    have read : readUpTo 4 (paddedDecimal 4 year.toNat ++ '-' :: rest) =
        some (paddedDecimal 4 year.toNat, '-' :: rest) := readUpTo_padded (by omega) ends
    have same : (year.toNat : Int) = year := by omega
    obtain ⟨c, more, written⟩ := List.exists_cons_of_ne_nil
      (paddedDecimal_ne_nil 4 year.toNat)
    have member : c ∈ paddedDecimal 4 year.toNat := by simp [written]
    have digit : isAsciiDigit c = true := paddedDecimal_digits member
    have unsigned : c ≠ '-' ∧ c ≠ '+' := by
      constructor <;> rintro rfl <;> exact absurd digit (by decide)
    rw [yearText, if_pos short, readYear, trimStart_padded]
    rw [written] at read ⊢
    split
    · exact absurd (List.cons.inj ‹_›).1 unsigned.1
    · exact absurd (List.cons.inj ‹_›).1 unsigned.2
    · rw [read, ← written]
      simp only [Option.map_some, numeral_paddedDecimal, same]
  -- any other year has a sign, and behind it as many digits as it takes
  · have read : readUpTo (paddedDecimal 4 year.natAbs ++ '-' :: rest).length
        (paddedDecimal 4 year.natAbs ++ '-' :: rest) =
          some (paddedDecimal 4 year.natAbs, '-' :: rest) := readUpTo_padded (by simp) ends
    rw [yearText, if_neg short, List.cons_append]
    by_cases negative : year < 0
    · have same : -(year.natAbs : Int) = year := by omega
      rw [if_pos negative, readYear, trimStart_solid (by decide)]
      simp only [read, Option.map_some, numeral_paddedDecimal, same]
    · have same : (year.natAbs : Int) = year := by omega
      rw [if_neg negative, readYear, trimStart_solid (by decide)]
      simp only [read, Option.map_some, numeral_paddedDecimal, same]

section Fractions

variable {rest : List Char}

theorem readNanos_padded {width n : Nat} (positive : 0 < width) (few : width ≤ 9)
    (below : n < 10 ^ width) (ends : startsWithDigit rest = false) :
    readNanos ('.' :: paddedDecimal width n ++ rest) = some (n * Nat.pow 10 (9 - width), rest) := by
  have length := paddedDecimal_length positive below
  have stops : rest.dropWhile isAsciiDigit = rest := @dropWhile_digits [] rest (by simp) ends
  rw [List.cons_append, readNanos, readUpTo_padded (by omega) ends]
  simp only [Option.bind_eq_bind, Option.bind_some, length, numeral_paddedDecimal, stops,
    Option.pure_def]

/-- A fraction of a second is read up to the end of its digits, however many were written. -/
theorem readNanos_fractionText {nanos : Nat} (below : nanos < 1000000000)
    (ends : startsWithDigit rest = false) (noPoint : rest.head? ≠ some '.') :
    readNanos (fractionText nanos ++ rest) = some (nanos, rest) := by
  unfold fractionText
  split
  case isTrue zero =>
    rw [zero]
    cases rest with
    | nil => rfl
    | cons c rest =>
        rw [List.nil_append, readNanos.eq_2 _ (fun more same => noPoint (by simp [same]))]
  split
  case isTrue millis =>
    rw [readNanos_padded (by decide) (by decide) (by omega) ends]
    simp only [Option.some.injEq, Prod.mk.injEq, and_true]
    show nanos / 1000000 * 1000000 = nanos
    omega
  split
  case isTrue micros =>
    rw [readNanos_padded (by decide) (by decide) (by omega) ends]
    simp only [Option.some.injEq, Prod.mk.injEq, and_true]
    show nanos / 1000 * 1000 = nanos
    omega
  case isFalse =>
    rw [readNanos_padded (by decide) (by decide) (by omega) ends]
    simp only [Option.some.injEq, Prod.mk.injEq, and_true]
    show nanos * 1 = nanos
    omega

end Fractions

theorem bind_found {α β : Type} {result : Option α} {value : α} (found : result = some value)
    (next : α → Option β) : (result >>= next) = next value := by
  rw [found]
  rfl

section Parts

variable {day : Day} {hour minute second nanos : Nat}

/-- A time in UTC by its parts. -/
def written (day : Day) (hour minute second nanos : Nat) : List Char :=
  yearText day.year ++ '-' :: (paddedDecimal 2 day.month ++ '-' :: (paddedDecimal 2 day.day
    ++ 'T' :: (paddedDecimal 2 hour ++ ':' :: (paddedDecimal 2 minute
      ++ ':' :: (paddedDecimal 2 second ++ (fractionText nanos ++ ['Z']))))))

/-- The instant that the parts mean, if there is one. The sixtieth second is the fifty-ninth running
on. -/
def meant? (day : Day) (hour minute second nanos : Nat) : Option Instant :=
  of? (day.number * 86400
      + ((hour : Int) * 3600 + (minute : Int) * 60 + ((if second = 60 then 59 else second : Nat) : Int)))
    (if second = 60 then nanos + 1000000000 else nanos)

theorem fractionText_ends (nanos : Nat) :
    startsWithDigit (fractionText nanos ++ ['Z']) = false := by
  unfold fractionText
  split <;> (try split) <;> (try split) <;> simp [startsWithDigit, isAsciiDigit]

/-- The parts of a day that exists and of a time of day are read back one by one. -/
theorem read?_written (valid : day.isValid = true) (early : hour < 24) (within : minute < 60)
    (shown : second < 61) (below : nanos < 1000000000) :
    read? (written day hour minute second nanos) =
      if Day.isNamed day.number then meant? day hour minute second nanos else none := by
  obtain ⟨shortMonth, shortDay⟩ : day.month < 10 ^ 2 ∧ day.day < 10 ^ 2 := by
    have length := Day.monthLength_le day.year day.month
    simp only [Day.isValid, Bool.and_eq_true, decide_eq_true_eq] at valid
    omega
  -- each number ends where the text goes on with a mark, which is no digit
  have dash (rest : List Char) : startsWithDigit ('-' :: rest) = false := by
    simp [startsWithDigit, isAsciiDigit]
  have colon (rest : List Char) : startsWithDigit (':' :: rest) = false := by
    simp [startsWithDigit, isAsciiDigit]
  have letter (rest : List Char) : startsWithDigit ('T' :: rest) = false := by
    simp [startsWithDigit, isAsciiDigit]
  have zone : startsWithDigit ['Z'] = false := by decide
  have nanosRead := readNanos_fractionText below zone (by simp)
  have dashMark (rest : List Char) : readMark '-' ('-' :: rest) = some rest :=
    readMark_self (by decide)
  have colonMark (rest : List Char) : readMark ':' (':' :: rest) = some rest :=
    readMark_self (by decide)
  have shortHour : hour < 10 ^ 2 := by omega
  have shortMinute : minute < 10 ^ 2 := by omega
  have shortSecond : second < 10 ^ 2 := by omega
  rw [written, read?]
  simp only [↓bind_found (readYear_yearText _ _), ↓bind_found (dashMark _),
    ↓bind_found (readField_padded (by decide : 0 < 2) shortMonth (dash _)),
    ↓bind_found (readField_padded (by decide : 0 < 2) shortDay (letter _))]
  rw [if_pos (.inl trivial), bind_found rfl]
  simp only [↓bind_found (colonMark _),
    ↓bind_found (readField_padded (by decide : 0 < 2) shortHour (colon _)),
    ↓bind_found (readField_padded (by decide : 0 < 2) shortMinute (colon _)),
    ↓bind_found (readField_padded (by decide : 0 < 2) shortSecond (fractionText_ends nanos)),
    ↓bind_found nanosRead]
  have zoneRead : readZone (trimStart ['Z']) = some (0, []) := by decide
  have noMore : trimStart [] = [] := rfl
  cases named : Day.isNamed day.number with
  | false => simp [zoneRead]
  | true =>
      simp [zoneRead, noMore, valid, Nat.not_le.mpr early, Nat.not_le.mpr within,
        Nat.not_le.mpr shown, meant?]

end Parts

/-- The second that is shown is the sixtieth exactly in a leap second. -/
theorem exists_shown {clock nanos : Nat}
    (told : nanos < 1000000000 ∨ clock % 60 = 59 ∧ nanos < 2000000000) :
    ∃ second below, clock % 60 + (if 1000000000 ≤ nanos then 1 else 0) = second
      ∧ (if 1000000000 ≤ nanos then nanos - 1000000000 else nanos) = below
      ∧ second < 61 ∧ below < 1000000000
      ∧ (if second = 60 then 59 else second) = clock % 60
      ∧ (if second = 60 then below + 1000000000 else below) = nanos := by
  have last : clock % 60 < 60 := Nat.mod_lt _ (by decide)
  refine ⟨_, _, rfl, rfl, ?_⟩
  by_cases runsOn : 1000000000 ≤ nanos
  · obtain ⟨leap, short⟩ : clock % 60 = 59 ∧ nanos < 2000000000 := by omega
    rw [if_pos runsOn, if_pos runsOn, leap]
    refine ⟨by decide, by omega, rfl, ?_⟩
    exact Nat.sub_add_cancel runsOn
  · rw [if_neg runsOn, if_neg runsOn, Nat.add_zero, if_neg (by omega), if_neg (by omega)]
    omega

theorem read?_toText (instant : Instant) : read? instant.toText.toList = some instant := by
  have early : (instant.seconds % 86400).toNat < 86400 := by omega
  have whole : instant.seconds
      = instant.seconds / 86400 * 86400 + ((instant.seconds % 86400).toNat : Int) := by omega
  have valid := Day.isValid_ofNumber (instant.seconds / 86400)
  have number := Day.number_ofNumber (instant.seconds / 86400)
  have named : Day.isNamed (instant.seconds / 86400) = true := instant.second.named
  -- of the clock only its bound matters from here on
  generalize time : (instant.seconds % 86400).toNat = clock at early whole
  obtain ⟨second, nanos, shown, fraction, within, below, sameSecond, sameNanos⟩ :=
    @exists_shown clock instant.nanos (instant.nanos_lt.imp id fun ⟨leap, short⟩ => ⟨by omega, short⟩)
  have text : instant.toText.toList = written (Day.ofNumber (instant.seconds / 86400))
      (clock / 3600) (clock / 60 % 60) second nanos := by
    simp only [toText, String.toList_ofList, civilText, time, shown, fraction, written,
      List.append_assoc, List.cons_append]
  have meant : meant? (Day.ofNumber (instant.seconds / 86400)) (clock / 3600) (clock / 60 % 60)
      second nanos = some instant := by
    have seconds : instant.seconds / 86400 * 86400 + (((clock / 3600 : Nat) : Int) * 3600
        + ((clock / 60 % 60 : Nat) : Int) * 60 + ((clock % 60 : Nat) : Int)) = instant.seconds := by
      omega
    rw [meant?, number, sameSecond, sameNanos, seconds, of?_self]
  rw [text, read?_written valid (by omega) (by omega) within below, number, if_pos named, meant]

end MonorepoCheck.Instant
