import VectorLink.Number.Decimal

/-! Moments as dates of the proleptic Gregorian calendar, and their internet text. -/

set_option autoImplicit false

namespace VectorLink

/-- A moment in universal time: seconds since the start of 1970 and nanoseconds beyond. In a leap
second the count of seconds stands still and the nanoseconds run on beyond a billion. -/
structure Moment where
  seconds : Int
  nanos : Nat
  deriving DecidableEq, Repr, Inhabited

namespace Calendar

structure Date where
  year : Int
  month : Nat
  day : Nat
  deriving DecidableEq, Repr

/-- The date so many days after the first of January 1970. Years are counted from March, so that
the day a leap year adds comes last; 400 years have 146097 days. -/
def ofDays (days : Int) : Date :=
  let shifted := days + 719468
  let era := shifted / 146097
  let dayOfEra := (shifted % 146097).toNat
  let yearOfEra := (dayOfEra - dayOfEra / 1460 + dayOfEra / 36524 - dayOfEra / 146096) / 365
  let dayOfYear := dayOfEra - (365 * yearOfEra + yearOfEra / 4 - yearOfEra / 100)
  let fromMarch := (5 * dayOfYear + 2) / 153
  let month := if fromMarch < 10 then fromMarch + 3 else fromMarch - 9
  { year := era * 400 + yearOfEra + if month ≤ 2 then 1 else 0
    month
    day := dayOfYear - (153 * fromMarch + 2) / 5 + 1 }

def yearText (year : Int) : List Char :=
  if 0 ≤ year ∧ year ≤ 9999 then Decimal.padded 4 year.toNat
  else (if year < 0 then '-' else '+') :: Decimal.padded 4 year.natAbs

def fractionText (nanos : Nat) : List Char :=
  if nanos = 0 then []
  else if nanos % 1000000 = 0 then '.' :: Decimal.padded 3 (nanos / 1000000)
  else if nanos % 1000 = 0 then '.' :: Decimal.padded 6 (nanos / 1000)
  else '.' :: Decimal.padded 9 nanos

end Calendar

def Moment.text (moment : Moment) : String :=
  let date := Calendar.ofDays (moment.seconds / 86400)
  let second := (moment.seconds % 86400).toNat
  let leap := moment.nanos / 1000000000
  .ofList (Calendar.yearText date.year ++ '-' :: Decimal.padded 2 date.month ++
    '-' :: Decimal.padded 2 date.day ++ 'T' :: Decimal.padded 2 (second / 3600) ++
    ':' :: Decimal.padded 2 (second / 60 % 60) ++ ':' :: Decimal.padded 2 (second % 60 + leap) ++
    Calendar.fractionText (moment.nanos % 1000000000) ++ ['Z'])

end VectorLink
