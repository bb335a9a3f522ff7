/-!
Instants of time, and the civil date and time of day they fall on in UTC. Every instant falls on a day
that has a name, and its nanoseconds are ones that its second has.
-/
namespace MonorepoCheck

/-- A day of the Gregorian calendar, extended to all years. -/
structure Day where
  year : Int
  month : Nat
  day : Nat
  deriving DecidableEq, Repr

namespace Day

def isLeapYear (year : Int) : Bool := year % 4 == 0 && (year % 100 != 0 || year % 400 == 0)

def monthLength (year : Int) (month : Nat) : Nat :=
  match month with
  | 2 => if isLeapYear year then 29 else 28
  | 4 | 6 | 9 | 11 => 30
  | _ => 31

def isValid (d : Day) : Bool :=
  1 ≤ d.month && d.month ≤ 12 && 1 ≤ d.day && d.day ≤ monthLength d.year d.month

/-- Days since 1970-01-01. Years are counted from March, so that a leap day ends its year. -/
def number (d : Day) : Int :=
  let year := if d.month ≤ 2 then d.year - 1 else d.year
  let era := year / 400
  let yearOfEra := year % 400
  let month : Int := if d.month ≤ 2 then d.month + 9 else d.month - 3
  let dayOfYear := (153 * month + 2) / 5 + d.day - 1
  era * 146097 + yearOfEra * 365 + yearOfEra / 4 - yearOfEra / 100 + dayOfYear - 719468

/-- The day of a number of days since 1970-01-01. -/
def ofNumber (n : Int) : Day :=
  let shifted := n + 719468
  let era := shifted / 146097
  let dayOfEra := shifted % 146097
  let yearOfEra := (dayOfEra - dayOfEra / 1460 + dayOfEra / 36524 - dayOfEra / 146096) / 365
  let dayOfYear := dayOfEra - (365 * yearOfEra + yearOfEra / 4 - yearOfEra / 100)
  let month := (5 * dayOfYear + 2) / 153
  let day := dayOfYear - (153 * month + 2) / 5 + 1
  let civilMonth := if month < 10 then month + 3 else month - 9
  let year := yearOfEra + era * 400
  ⟨if civilMonth ≤ 2 then year + 1 else year, civilMonth.toNat, day.toNat⟩

/-- The first day that has a name. -/
def first : Day := ⟨-262143, 1, 1⟩

/-- The last day that has a name. -/
def last : Day := ⟨262142, 12, 31⟩

/-- Whether a day, by its number, has a name. -/
def isNamed (number : Int) : Bool := first.number ≤ number && number ≤ last.number

end Day

namespace Instant

/-- Seconds since the start of 1970 in UTC, on a day that has a name. -/
structure Second where
  count : Int
  named : Day.isNamed (count / 86400) = true
  deriving DecidableEq, Repr

namespace Second

/-- Numbers of seconds on no day with a name are taken to the first or the last one that is. -/
def nearest (count : Int) : Second :=
  if named : Day.isNamed (count / 86400) = true then ⟨count, named⟩
  else if count < 0 then ⟨Day.first.number * 86400, by decide⟩
  else ⟨Day.last.number * 86400 + 86399, by decide⟩

instance : Coe Int Second := ⟨nearest⟩

instance (n : Nat) : OfNat Second n := ⟨nearest n⟩

instance : Add Second := ⟨fun a b => nearest (a.count + b.count)⟩

/-- How many nanoseconds a second has. The last one of a minute may be a leap second, which runs on. -/
def length (second : Second) : Nat := if second.count % 60 = 59 then 2000000000 else 1000000000

theorem length_pos (second : Second) : 0 < second.length := by
  unfold length
  split <;> decide

end Second

/-- Nanoseconds into a second. -/
structure Nanos (second : Second) where
  count : Nat
  within : count < second.length
  deriving DecidableEq, Repr

namespace Nanos

variable {second : Second}

/-- Numbers of nanoseconds that a second does not have are taken to its last one. -/
def nearest (count : Nat) : Nanos second :=
  if within : count < second.length then ⟨count, within⟩
  else ⟨second.length - 1, Nat.sub_one_lt_of_lt second.length_pos⟩

instance : Coe Nat (Nanos second) := ⟨nearest⟩

instance (n : Nat) : OfNat (Nanos second) n := ⟨nearest n⟩

end Nanos
end Instant

structure Instant where
  second : Instant.Second
  rest : Instant.Nanos second
  deriving DecidableEq, Repr

namespace Instant

instance : Inhabited Instant := ⟨0, 0⟩

/-- Seconds since the start of 1970 in UTC. -/
def seconds (instant : Instant) : Int := instant.second.count

/-- Nanoseconds since the start of the second. -/
def nanos (instant : Instant) : Nat := instant.rest.count

/-- The instant of so many seconds and nanoseconds, if there is one. -/
def of? (seconds : Int) (nanos : Nat) : Option Instant :=
  if named : Day.isNamed (seconds / 86400) = true then
    let second : Second := ⟨seconds, named⟩
    if within : nanos < second.length then some ⟨second, nanos, within⟩ else none
  else none

/-- Whether one instant comes strictly after another. -/
def isAfter (a b : Instant) : Bool :=
  decide (b.seconds < a.seconds) || (a.seconds == b.seconds && decide (b.nanos < a.nanos))

def latest (a b : Instant) : Instant := if a.isAfter b then a else b

/-- Instants are told apart by their numbers. -/
theorem ext {a b : Instant} (seconds : a.seconds = b.seconds) (nanos : a.nanos = b.nanos) : a = b := by
  obtain ⟨⟨second, named⟩, count, within⟩ := a
  obtain ⟨⟨other, namedOther⟩, countOther, withinOther⟩ := b
  obtain rfl : second = other := seconds
  obtain rfl : count = countOther := nanos
  rfl

/-- Nanoseconds run on past a second in the last second of a minute only. -/
theorem nanos_lt (instant : Instant) :
    instant.nanos < 1000000000 ∨ instant.seconds % 60 = 59 ∧ instant.nanos < 2000000000 := by
  have within : instant.nanos < instant.second.length := instant.rest.within
  rw [Second.length] at within
  by_cases last : instant.second.count % 60 = 59
  · rw [if_pos last] at within
    exact .inr ⟨last, within⟩
  · rw [if_neg last] at within
    exact .inl within

theorem of?_self (instant : Instant) : of? instant.seconds instant.nanos = some instant := by
  obtain ⟨⟨count, named⟩, nanos, within⟩ := instant
  exact (dif_pos named).trans (dif_pos within)

end Instant
end MonorepoCheck
