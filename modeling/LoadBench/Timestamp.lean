import LoadBench.Duration
import LoadBench.Text.Numeral

namespace LoadBench.Timestamp

open Text

structure Date where
  year : Nat
  month : Nat
  day : Nat
deriving DecidableEq

/-- The date of a day, counted from the first of January 1970. Years are taken to start in March, so
that the leap day is the last of its year. -/
def Date.ofDays (days : Nat) : Date :=
  let sinceEra := days + 719468
  let era := sinceEra / 146097
  let ofEra := sinceEra % 146097
  let yearOfEra := (ofEra - ofEra / 1460 + ofEra / 36524 - ofEra / 146096) / 365
  let ofYear := ofEra - (365 * yearOfEra + yearOfEra / 4 - yearOfEra / 100)
  let monthFromMarch := (5 * ofYear + 2) / 153
  let month := if monthFromMarch < 10 then monthFromMarch + 3 else monthFromMarch - 9
  { year := 400 * era + yearOfEra + (if month ≤ 2 then 1 else 0)
    month
    day := ofYear - (153 * monthFromMarch + 2) / 5 + 1 }

def padded (width n : Nat) : String :=
  let digits := Numeral.toString n
  String.ofList (List.replicate (width - digits.length) '0') ++ digits

def text (time : Duration) : String :=
  let seconds := time.wholeSeconds
  let date := Date.ofDays (seconds / 86400)
  padded 4 date.year ++ "-" ++ padded 2 date.month ++ "-" ++ padded 2 date.day ++ "T" ++
    padded 2 (seconds / 3600 % 24) ++ ":" ++ padded 2 (seconds / 60 % 60) ++ ":" ++
    padded 2 (seconds % 60) ++ "." ++ padded 6 (time.subsecond / 1000) ++ "Z"

end LoadBench.Timestamp
