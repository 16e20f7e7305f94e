import Flowgraph.Queue

namespace Flowgraph

/-- The time as operations see it. -/
structure Clock where
  /-- Seconds since the epoch. -/
  seconds : Float
  /-- The time of day as it is noted at nodes. -/
  timestamp : String
  /-- The readings for identifiers, one after another. -/
  moment : Nat → Queue.Moment

/-- A day of the calendar. -/
structure Date where
  year : Nat
  month : Nat
  day : Nat
deriving DecidableEq, Repr

/-- The date so many days after the first of January 1970. Years are counted from March, so that a
leap day ends its year; 400 of them have 146097 days. -/
def Date.ofDays (days : Nat) : Date :=
  let shifted := days + 719468
  let inEra := shifted % 146097
  let year := (inEra - inEra / 1460 + inEra / 36524 - inEra / 146096) / 365
  let inYear := inEra - (365 * year + year / 4 - year / 100)
  let fromMarch := (5 * inYear + 2) / 153
  let month := if fromMarch < 10 then fromMarch + 3 else fromMarch - 9
  { year := year + shifted / 146097 * 400 + if month ≤ 2 then 1 else 0
    month := month
    day := inYear - (153 * fromMarch + 2) / 5 + 1 }

/-- A number with zeros before it up to a width. -/
def zeroPadded (width n : Nat) : String :=
  let digits := toString n
  String.ofList (List.replicate (width - digits.length) '0') ++ digits

/-- A point in time, in milliseconds since the epoch: month, day and year in two digits each, then
the hour on a dial of twelve, minutes, seconds and milliseconds. -/
def timestampOf (millis : Nat) : String :=
  let date := Date.ofDays (millis / 86400000)
  let hour := millis / 3600000 % 24
  let dial := if hour % 12 = 0 then 12 else hour % 12
  let two := zeroPadded 2
  String.intercalate "/" [two date.month, two date.day, two (date.year % 100)] ++ ", " ++
    String.intercalate ":" [two dial, two (millis / 60000 % 60), two (millis / 1000 % 60)] ++ "." ++
    zeroPadded 3 (millis % 1000) ++ if hour < 12 then " AM" else " PM"

/-- The clock at a point in time, with the digits that identifiers start from. -/
def Clock.atMillis (millis : Nat) (fresh : List Nat) : Clock where
  seconds := millis.toFloat / 1000
  timestamp := timestampOf millis
  moment _ := ⟨millis, fresh⟩

end Flowgraph
