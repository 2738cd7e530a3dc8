import ChatRelay.Json.Literal

/-!
# Dates and times of day

- `Yaml.Date`, `Yaml.Time`: a calendar date, and a time of day on one;
- `Date.isOnCalendar`: whether a date is one of the calendar, and `Date.dayNumber`: how many days it is from the
  beginning;
- `Time.instant?`: the point in time that a time with a known zone is, whatever the zone;
- `Date.text`, `Date.literal`, `Time.text`, `Time.literal`: both as a text of their own, and as they are shown inside
  another value.
-/

namespace ChatRelay.Yaml

/-- A calendar date. -/
structure Date where
  year : Nat
  month : Nat
  day : Nat
deriving DecidableEq

/-- A time of day on a date, with the distance from universal time in minutes if it is known. -/
structure Time where
  date : Date
  hour : Nat
  minute : Nat
  second : Nat
  microsecond : Nat
  zone : Option Int
deriving DecidableEq

/-! ## The calendar -/

/-- How many days a month has. -/
def daysIn (year month : Nat) : Nat :=
  if month = 2 then
    if (year % 4 = 0 ∧ year % 100 ≠ 0) ∨ year % 400 = 0 then 29 else 28
  else if month = 4 ∨ month = 6 ∨ month = 9 ∨ month = 11 then 30
  else 31

/-- Whether a date is one of the calendar. -/
def Date.isOnCalendar (d : Date) : Bool :=
  1 ≤ d.year && 1 ≤ d.month && d.month ≤ 12 && 1 ≤ d.day && d.day ≤ daysIn d.year d.month

/-- The number of a day, counted from the first day of the calendar. -/
def Date.dayNumber (d : Date) : Nat :=
  let years := d.year - 1
  let months := (List.range (d.month - 1)).foldl (fun days m => days + daysIn d.year (m + 1)) 0
  years * 365 + years / 4 - years / 100 + years / 400 + months + d.day

/-- The point in time that a time is, in microseconds, if its zone is known. -/
def Time.instant? (t : Time) : Option Int :=
  t.zone.map fun z =>
    (((t.date.dayNumber * 24 + t.hour) * 60 + t.minute : Int) - z) * 60000000 + t.second * 1000000 + t.microsecond

/-- Whether two times are the same: as points in time when both zones are known, by their parts when none is. -/
def Time.same (t u : Time) : Bool :=
  match t.instant?, u.instant? with
  | some a, some b => a == b
  | none, none => t == u
  | _, _ => false

/-! ## Dates in text -/

/-- A number padded with zeros to a width. -/
def padded (width n : Nat) : String :=
  let ds := Nat.toDigits 10 n
  String.ofList (List.replicate (width - ds.length) '0' ++ ds)

/-- A date in text. -/
def Date.text (d : Date) : String := padded 4 d.year ++ "-" ++ padded 2 d.month ++ "-" ++ padded 2 d.day

/-- A distance from universal time in text. -/
def zoneText (minutes : Int) : String :=
  (if minutes < 0 then "-" else "+") ++ padded 2 (minutes.natAbs / 60) ++ ":" ++ padded 2 (minutes.natAbs % 60)

/-- A time in text. -/
def Time.text (t : Time) : String :=
  t.date.text ++ " " ++ padded 2 t.hour ++ ":" ++ padded 2 t.minute ++ ":" ++ padded 2 t.second ++
    (if t.microsecond = 0 then "" else "." ++ padded 6 t.microsecond) ++ (t.zone.map zoneText).getD ""

/-- Numbers between commas. -/
def commaList (ns : List Nat) : String := ", ".intercalate (ns.map toString)

/-- A date as it is shown inside another value. -/
def Date.literal (d : Date) : String := "datetime.date(" ++ commaList [d.year, d.month, d.day] ++ ")"

/-- A distance from universal time as it is shown inside another value. -/
def zoneLiteral (minutes : Int) : String :=
  let seconds := "seconds=" ++ toString (minutes * 60 % 86400)
  if minutes = 0 then "datetime.timezone.utc"
  else
    "datetime.timezone(datetime.timedelta(" ++ (if minutes < 0 then "days=-1, " else "") ++ seconds ++ "))"

/-- A time as it is shown inside another value. Seconds and fractions that are zero are left out. -/
def Time.literal (t : Time) : String :=
  let tail :=
    if t.microsecond ≠ 0 then [t.second, t.microsecond] else if t.second ≠ 0 then [t.second] else []
  "datetime.datetime(" ++ commaList ([t.date.year, t.date.month, t.date.day, t.hour, t.minute] ++ tail) ++
    (t.zone.map fun z => ", tzinfo=" ++ zoneLiteral z).getD "" ++ ")"

end ChatRelay.Yaml
