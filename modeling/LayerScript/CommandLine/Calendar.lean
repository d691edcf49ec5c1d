import LayerScript.CommandLine.Run

/-!
# Dates

Dates of the Gregorian calendar and the text of a moment, in universal time.
-/

namespace LayerScript

structure Date where
  year : Nat
  month : Nat
  day : Nat
deriving DecidableEq, Repr, Inhabited

/-- The date a number of days after the first of January 1970. Years are counted from March, so
that the leap day ends a year; 400 such years have 146097 days. -/
def Date.ofDays (days : Nat) : Date :=
  let shifted := days + 719468
  let dayOfEra := shifted % 146097
  let yearOfEra := (dayOfEra - dayOfEra / 1460 + dayOfEra / 36524 - dayOfEra / 146096) / 365
  let dayOfYear := dayOfEra - (365 * yearOfEra + yearOfEra / 4 - yearOfEra / 100)
  let monthFromMarch := (5 * dayOfYear + 2) / 153
  let year := yearOfEra + shifted / 146097 * 400
  let day := dayOfYear - (153 * monthFromMarch + 2) / 5 + 1
  if monthFromMarch < 10 then ⟨year, monthFromMarch + 3, day⟩
  else ⟨year + 1, monthFromMarch - 9, day⟩

/-- A number with at least `width` digits. -/
def padded (width n : Nat) : String :=
  let digits := Nat.toDigits 10 n
  String.ofList (List.replicate (width - digits.length) '0' ++ digits)

/-- The text of a moment given in microseconds since 1970. Of the second, `places` digits are
shown. -/
def momentText (places microseconds : Nat) : String :=
  let seconds := microseconds / 1000000
  let date := Date.ofDays (seconds / 86400)
  let fraction := microseconds % 1000000 / Nat.pow 10 (6 - places)
  padded 4 date.year ++ "-" ++ padded 2 date.month ++ "-" ++ padded 2 date.day ++ "T" ++
    padded 2 (seconds / 3600 % 24) ++ ":" ++ padded 2 (seconds / 60 % 60) ++ ":" ++
    padded 2 (seconds % 60) ++ "." ++ padded places fraction ++ "Z"

/-- The panel shows milliseconds, the journal microseconds. -/
def Clock.at (microseconds : Nat) : Clock :=
  ⟨momentText 3 microseconds, momentText 6 microseconds⟩

end LayerScript
