/-!
# Times in logs

A time is written as a date of the Gregorian calendar and a time of day in Universal Time, with
microseconds. Years are counted from March on, so that the day that is sometimes there comes last.
-/

namespace UnitWatch.Log

/-- A number with zeros in front up to a width. -/
def padZeros (width n : Nat) : String :=
  let digits := toString n
  String.ofList (List.replicate (width - digits.length) '0') ++ digits

/-- The year, the month and the day that so many days after the start of 1970 is. -/
def dateOf (days : Nat) : Nat × Nat × Nat :=
  let day := days + 719468
  let era := day / 146097
  let dayOfEra := day % 146097
  let yearOfEra :=
    (dayOfEra - dayOfEra / 1460 + dayOfEra / 36524 - dayOfEra / 146096) / 365
  let dayOfYear := dayOfEra - (365 * yearOfEra + yearOfEra / 4 - yearOfEra / 100)
  let month := (5 * dayOfYear + 2) / 153
  let year := yearOfEra + era * 400
  (if month < 10 then year else year + 1, if month < 10 then month + 3 else month - 9,
    dayOfYear - (153 * month + 2) / 5 + 1)

/-- The time that is so many microseconds after the start of 1970. -/
def clockText (microseconds : Nat) : String :=
  let seconds := microseconds / 1000000
  let (year, month, day) := dateOf (seconds / 86400)
  let ofDay := seconds % 86400
  padZeros 4 year ++ "-" ++ padZeros 2 month ++ "-" ++ padZeros 2 day ++ "T"
    ++ padZeros 2 (ofDay / 3600) ++ ":" ++ padZeros 2 (ofDay / 60 % 60) ++ ":"
    ++ padZeros 2 (ofDay % 60) ++ "." ++ padZeros 6 (microseconds % 1000000) ++ "Z"

example : clockText 1700000000000001 = "2023-11-14T22:13:20.000001Z" := by cbv

example : dateOf 59 = (1970, 3, 1) ∧ dateOf 11016 = (2000, 2, 29) := by decide

end UnitWatch.Log
