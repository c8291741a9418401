import ChatWarden.Decimal.Rounding

/-!
# The clock of a rehearsal

How times and the numbers of levels show in the lines of a log, if the clock is that of Greenwich
and no level has been given a name of its own.

Results:
* `timestamp` is a time as lines show it, `levelName` a level.
-/

namespace ChatWarden.Rehearsal

/-- The year, month and day of a day counted from the start of 1970. -/
def civilDate (day : Int) : Int × Nat × Nat :=
  let shifted := day + 719468
  let era := shifted.fdiv 146097
  let dayOfEra := (shifted.fmod 146097).toNat
  let yearOfEra := (dayOfEra - dayOfEra / 1460 + dayOfEra / 36524 - dayOfEra / 146096) / 365
  let dayOfYear := dayOfEra - (365 * yearOfEra + yearOfEra / 4 - yearOfEra / 100)
  let monthFromMarch := (5 * dayOfYear + 2) / 153
  let date := dayOfYear - (153 * monthFromMarch + 2) / 5 + 1
  let month := if monthFromMarch < 10 then monthFromMarch + 3 else monthFromMarch - 9
  let year := (yearOfEra : Int) + era * 400 + (if month ≤ 2 then 1 else 0)
  (year, month, date)

/-- A number with at least two digits. -/
def twoDigits (n : Nat) : String := .ofList (Decimal.zeroPadded 2 (Decimal.digitsOf n))

/-- A time, in whole seconds since the start of 1970, as date and time of day. -/
def timestamp (seconds : Int) : String :=
  let (year, month, date) := civilDate (seconds.fdiv 86400)
  let inDay := (seconds.fmod 86400).toNat
  toString year ++ "-" ++ twoDigits month ++ "-" ++ twoDigits date ++ " " ++
    twoDigits (inDay / 3600) ++ ":" ++ twoDigits (inDay / 60 % 60) ++ ":" ++ twoDigits (inDay % 60)

/-- The name of a level; one without a name shows its number. -/
def levelName (level : Int) : String :=
  if level == 50 then "CRITICAL"
  else if level == 40 then "ERROR"
  else if level == 30 then "WARNING"
  else if level == 20 then "INFO"
  else if level == 10 then "DEBUG"
  else if level == 0 then "NOTSET"
  else "Level " ++ toString level

end ChatWarden.Rehearsal
