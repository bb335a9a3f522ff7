import MonorepoCheck.Instant.Basic

/-!
The calendar and the count of days are each other's inverse: the day of a number is a day of the
calendar, and its number is that number again.
-/
namespace MonorepoCheck.Day

/-- The year of an era of four hundred years that a day of it falls in. Years are counted from
March. -/
def yearOfEra (day : Int) : Int := (day - day / 1460 + day / 36524 - day / 146096) / 365

/-- The days of an era before a year of it. -/
def daysBefore (year : Int) : Int := 365 * year + year / 4 - year / 100

/-- A day of an era stands in one of its four centuries, there in one of twenty-five times four
years, and there in one of four years, of which the last one has a leap day. -/
theorem era_parts {day : Int} (low : 0 ≤ day) (high : day < 146097) :
    ∃ century cycle year rest : Int, day = 36524 * century + 1461 * cycle + 365 * year + rest
      ∧ 0 ≤ century ∧ century ≤ 3 ∧ 0 ≤ cycle ∧ cycle ≤ 24 ∧ 0 ≤ year ∧ year ≤ 3 ∧ 0 ≤ rest
      ∧ (rest < 365 ∨ rest = 365 ∧ year = 3 ∧ (cycle = 24 → century = 3)) := by
  by_cases last : day = 146096
  · exact ⟨3, 24, 3, 365, by omega⟩
  · by_cases leap : day % 36524 % 1461 = 1460
    · exact ⟨day / 36524, day % 36524 / 1461, 3, 365, by omega⟩
    · exact ⟨day / 36524, day % 36524 / 1461, day % 36524 % 1461 / 365,
        day % 36524 % 1461 % 365, by omega⟩

theorem yearOfEra_spec {day : Int} (low : 0 ≤ day) (high : day < 146097) :
    0 ≤ yearOfEra day ∧ yearOfEra day < 400 ∧ daysBefore (yearOfEra day) ≤ day
      ∧ (day < daysBefore (yearOfEra day) + 365
        ∨ day = daysBefore (yearOfEra day) + 365
          ∧ (yearOfEra day + 1) % 4 = 0
          ∧ ((yearOfEra day + 1) % 100 = 0 → (yearOfEra day + 1) % 400 = 0)) := by
  obtain ⟨century, cycle, year, rest, parts, c0, c3, y0, y24, j0, j3, r0, ends⟩ :=
    era_parts low high
  -- the quotients tell how many leap days have passed, and how many centuries went without one
  have quarters : day / 1460 = 25 * century + cycle
      + (if 1460 ≤ 24 * century + cycle + 365 * year + rest then 1 else 0) := by
    split <;> omega
  have centuries : day / 36524 = century + (if day = 146096 then 1 else 0) := by
    split <;> omega
  have eras : day / 146096 = if day = 146096 then 1 else 0 := by
    split <;> omega
  have found : yearOfEra day = 100 * century + 4 * cycle + year := by
    rw [yearOfEra, quarters, centuries, eras]
    split <;> split <;> omega
  have before : daysBefore (yearOfEra day) = 36524 * century + 1461 * cycle + 365 * year := by
    rw [found, daysBefore]
    omega
  rw [before, found]
  omega

/-- The parts that the day of a number is made of. -/
theorem ofNumber_parts (n : Int) :
    ∃ era year dayOfYear month : Int,
      n + 719468 = 146097 * era + daysBefore year + dayOfYear
        ∧ 0 ≤ year ∧ year < 400 ∧ 0 ≤ dayOfYear
        ∧ (dayOfYear < 365 ∨ dayOfYear = 365 ∧ (year + 1) % 4 = 0
          ∧ ((year + 1) % 100 = 0 → (year + 1) % 400 = 0))
        ∧ month = (5 * dayOfYear + 2) / 153
        ∧ ofNumber n = ⟨(if month < 10 then 0 else 1) + year + era * 400,
            (if month < 10 then month + 3 else month - 9).toNat,
            (dayOfYear - (153 * month + 2) / 5 + 1).toNat⟩ := by
  have low : 0 ≤ (n + 719468) % 146097 := by omega
  have high : (n + 719468) % 146097 < 146097 := by omega
  obtain ⟨y0, y400, before, within⟩ := yearOfEra_spec low high
  refine ⟨(n + 719468) / 146097, yearOfEra ((n + 719468) % 146097),
    (n + 719468) % 146097 - daysBefore (yearOfEra ((n + 719468) % 146097)), _, by omega, y0, y400,
    by omega, by omega, rfl, ?_⟩
  generalize formula : yearOfEra ((n + 719468) % 146097) = year at *
  simp only [yearOfEra] at formula
  simp only [ofNumber, formula]
  rw [show 365 * year + year / 4 - year / 100 = daysBefore year from rfl]
  generalize dayOfYear : (n + 719468) % 146097 - daysBefore year = day at *
  have early : 0 ≤ (5 * day + 2) / 153 := by omega
  congr 1
  split <;> split <;> omega

theorem number_ofNumber (n : Int) : (ofNumber n).number = n := by
  obtain ⟨era, year, dayOfYear, month, parts, y0, y400, d0, ends, months, found⟩ :=
    ofNumber_parts n
  have month0 : 0 ≤ month ∧ month ≤ 11 := by omega
  have first : 1 ≤ dayOfYear - (153 * month + 2) / 5 + 1 := by omega
  rw [found]
  simp only [number, daysBefore] at parts ⊢
  by_cases early : month < 10
  · simp only [if_pos early]
    rw [if_neg (by omega), if_neg (by omega)]
    omega
  · simp only [if_neg early]
    rw [if_pos (by omega), if_pos (by omega)]
    omega

theorem isLeapYear_iff (year : Int) :
    isLeapYear year = true ↔ year % 4 = 0 ∧ (year % 100 = 0 → year % 400 = 0) := by
  simp only [isLeapYear, Bool.and_eq_true, Bool.or_eq_true, beq_iff_eq, bne_iff_ne]
  omega

theorem monthLength_le (year : Int) (month : Nat) : monthLength year month ≤ 31 := by
  unfold monthLength
  split <;> (try split) <;> omega

theorem isValid_ofNumber (n : Int) : (ofNumber n).isValid = true := by
  obtain ⟨era, year, dayOfYear, month, parts, y0, y400, d0, ends, months, found⟩ :=
    ofNumber_parts n
  have month0 : 0 ≤ month ∧ month ≤ 11 := by omega
  have first : 1 ≤ dayOfYear - (153 * month + 2) / 5 + 1 := by omega
  rw [found]
  -- a year begins in March here, so its last month is the one whose length depends on the year
  have length : month = 11 → dayOfYear ≤ 364 ∨ isLeapYear (1 + year + era * 400) = true := by
    intro february
    rcases ends with short | ⟨last, leap⟩
    · exact .inl (by omega)
    · exact .inr ((isLeapYear_iff _).mpr (by omega))
  obtain rfl | rfl | rfl | rfl | rfl | rfl | rfl | rfl | rfl | rfl | rfl | rfl :
      month = 0 ∨ month = 1 ∨ month = 2 ∨ month = 3 ∨ month = 4 ∨ month = 5 ∨ month = 6 ∨ month = 7
        ∨ month = 8 ∨ month = 9 ∨ month = 10 ∨ month = 11 := by omega
  case inr.inr.inr.inr.inr.inr.inr.inr.inr.inr.inr =>
    rcases length rfl with short | leap
    · simp [isValid, monthLength]
      split <;> omega
    · simp [isValid, monthLength, leap]
      omega
  all_goals simp [isValid, monthLength] ; omega

end MonorepoCheck.Day
