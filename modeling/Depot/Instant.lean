import Depot.Text.Literal

/-!
Points in time: seconds since the start of 1970 and the nanoseconds after them, with the calendar
date they fall on and their written form, such as `2026-01-01T00:00:00.250Z`.
-/

namespace Depot

structure Instant where
  seconds : Int
  nanos : Nat := 0
deriving DecidableEq, Repr, Inhabited

structure Date where
  year : Int
  month : Nat
  day : Nat
deriving DecidableEq, Repr

namespace Date

/-- The date a number of days after the first of January 1970. Years run from March, so that the
leap day is the last of its year; 400 years always have 146097 days. -/
def ofDays (days : Int) : Date :=
  let shifted := days + 719468
  let era := Int.fdiv shifted 146097
  let dayOfEra := (shifted - era * 146097).toNat
  let yearOfEra := (dayOfEra - dayOfEra / 1460 + dayOfEra / 36524 - dayOfEra / 146096) / 365
  let dayOfYear := dayOfEra - (365 * yearOfEra + yearOfEra / 4 - yearOfEra / 100)
  let fromMarch := (5 * dayOfYear + 2) / 153
  let day := dayOfYear - (153 * fromMarch + 2) / 5 + 1
  let month := if fromMarch < 10 then fromMarch + 3 else fromMarch - 9
  let year := era * 400 + yearOfEra + (if month ≤ 2 then 1 else 0)
  ⟨year, month, day⟩

def days (date : Date) : Int :=
  let year := if date.month ≤ 2 then date.year - 1 else date.year
  let era := Int.fdiv year 400
  let yearOfEra := (year - era * 400).toNat
  let fromMarch := if date.month ≤ 2 then date.month + 9 else date.month - 3
  let dayOfYear := (153 * fromMarch + 2) / 5 + date.day - 1
  let dayOfEra := yearOfEra * 365 + yearOfEra / 4 - yearOfEra / 100 + dayOfYear
  era * 146097 + dayOfEra - 719468

end Date

namespace Instant

def le (a b : Instant) : Bool :=
  a.seconds < b.seconds || (a.seconds == b.seconds && a.nanos ≤ b.nanos)

theorem le_refl (t : Instant) : t.le t = true := by
  simp [le]

theorem le_trans {a b c : Instant} (early : a.le b = true) (late : b.le c = true) :
    a.le c = true := by
  simp only [le, Bool.or_eq_true, Bool.and_eq_true, decide_eq_true_eq, beq_iff_eq] at early late ⊢
  omega

theorem le_total (a b : Instant) : (a.le b || b.le a) = true := by
  simp only [le, Bool.or_eq_true, Bool.and_eq_true, decide_eq_true_eq, beq_iff_eq]
  omega

def date (t : Instant) : Date := Date.ofDays (Int.fdiv t.seconds 86400)

def ofDate (date : Date) : Instant := ⟨date.days * 86400, 0⟩

def addMinutes (t : Instant) (minutes : Nat) : Instant :=
  { t with seconds := t.seconds + 60 * minutes }

/-- A year has four digits, or a sign and at least four where four do not do. -/
def yearText (year : Int) : String :=
  if 0 ≤ year ∧ year ≤ 9999 then Text.padded 4 year.toNat
  else if 0 ≤ year then "+" ++ Text.padded 4 year.toNat
  else "-" ++ Text.padded 4 year.natAbs

/-- The fraction of a second: none, or the fewest of 3, 6 and 9 digits that are exact. -/
def fractionText (nanos : Nat) : String :=
  if nanos = 0 then ""
  else if nanos % 1000000 = 0 then "." ++ Text.padded 3 (nanos / 1000000)
  else if nanos % 1000 = 0 then "." ++ Text.padded 6 (nanos / 1000)
  else "." ++ Text.padded 9 nanos

def text (t : Instant) : String :=
  let date := t.date
  let clock := (t.seconds - Int.fdiv t.seconds 86400 * 86400).toNat
  yearText date.year ++ "-" ++ Text.padded 2 date.month ++ "-" ++ Text.padded 2 date.day ++ "T" ++
    Text.padded 2 (clock / 3600) ++ ":" ++ Text.padded 2 (clock / 60 % 60) ++ ":" ++
    Text.padded 2 (clock % 60) ++ fractionText t.nanos ++ "Z"

def rowEpochSeconds : Int := 946684800

/-- The instant as a row timestamp holds it: a count of microseconds from the start of 2000, what is
left of the nanoseconds being dropped towards that start. -/
def toRowPrecision (t : Instant) : Instant :=
  let nanos := (t.seconds - rowEpochSeconds) * 1000000000 + t.nanos
  let micros := Int.tdiv nanos 1000
  ⟨Int.fdiv micros 1000000 + rowEpochSeconds, ((Int.fmod micros 1000000) * 1000).toNat⟩

def floorMicros (t : Instant) : Instant := { t with nanos := t.nanos / 1000 * 1000 }

end Instant

end Depot
