/-! # Times as text

    A time is told in universal time, as the date, the time of day to the microsecond
    and the offset from universal time. The calendar repeats after 400 years, so a date
    is found from the number of days since the first of March of a year that such a
    span starts with.
-/

namespace SymbolGraph.Clock

/-- A number with at least two digits. -/
def twoDigits (n : Nat) : String :=
  if n < 10 then s!"0{n}" else toString n

/-- A number with zeros in front, up to a number of digits. -/
def padded (digits n : Nat) : String :=
  let s := toString n
  String.ofList (List.replicate (digits - s.length) '0') ++ s

/-- A date. -/
structure Date where
  year : Nat
  month : Nat
  day : Nat
deriving DecidableEq, Inhabited, Repr

/-- The date that is a number of days after the first of January 1970. -/
def dateOf (days : Nat) : Date :=
  let shifted := days + 719468
  let era := shifted / 146097
  let dayOfEra := shifted % 146097
  let yearOfEra := (dayOfEra - dayOfEra / 1460 + dayOfEra / 36524 - dayOfEra / 146096) / 365
  let dayOfYear := dayOfEra - (365 * yearOfEra + yearOfEra / 4 - yearOfEra / 100)
  let monthFromMarch := (5 * dayOfYear + 2) / 153
  let month := if monthFromMarch < 10 then monthFromMarch + 3 else monthFromMarch - 9
  { year := era * 400 + yearOfEra + (if month ≤ 2 then 1 else 0)
    month := month
    day := dayOfYear - (153 * monthFromMarch + 2) / 5 + 1 }

/-- A time given in seconds after the start of 1970, and microseconds after that. Whole
    seconds are told without microseconds. -/
def render (seconds micros : Nat) : String :=
  let d := dateOf (seconds / 86400)
  let s := seconds % 86400
  let fraction := if micros = 0 then "" else "." ++ padded 6 micros
  padded 4 d.year ++ "-" ++ twoDigits d.month ++ "-" ++ twoDigits d.day ++ "T"
    ++ twoDigits (s / 3600) ++ ":" ++ twoDigits (s / 60 % 60) ++ ":" ++ twoDigits (s % 60)
    ++ fraction ++ "+00:00"

end SymbolGraph.Clock
