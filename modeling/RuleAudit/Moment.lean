/-!
# Dates and times

The calendar values a configuration document may hold: a date, a time of day, or both with an
optional offset from universal time. Each has an interchange form, a plain form and a quoted form.
-/

namespace RuleAudit

/-- A calendar day. -/
structure Day where
  year : Nat
  month : Nat
  day : Nat
  deriving Repr, DecidableEq

/-- A time of day to the microsecond. -/
structure Clock where
  hour : Nat
  minute : Nat
  second : Nat
  micro : Nat
  deriving Repr, DecidableEq

/-- A date, a time of day, or a date with a time. -/
inductive Moment where
  | date (day : Day)
  | time (clock : Clock)
  | instant (day : Day) (clock : Clock) (offset : Option Int)
  deriving Repr, DecidableEq

namespace Moment

/-- A number with zeros in front up to `width` digits. -/
def padded (width n : Nat) : String :=
  let digits := toString n
  String.ofList (List.replicate (width - digits.length) '0') ++ digits

/-- Leap years of the Gregorian calendar. -/
def isLeap (year : Nat) : Bool :=
  year % 4 == 0 && (year % 100 != 0 || year % 400 == 0)

/-- Days of a month. -/
def monthLength (year month : Nat) : Nat :=
  if month == 2 then (if isLeap year then 29 else 28)
  else if month == 4 || month == 6 || month == 9 || month == 11 then 30
  else 31

/-- Whether the calendar has the day. -/
def validDay (d : Day) : Bool :=
  1 ≤ d.year && d.year ≤ 9999 && 1 ≤ d.month && d.month ≤ 12 &&
    1 ≤ d.day && d.day ≤ monthLength d.year d.month

/-- `2024-05-01`. -/
def dayText (d : Day) : String :=
  s!"{padded 4 d.year}-{padded 2 d.month}-{padded 2 d.day}"

/-- `07:32:00`, with six decimals when there are microseconds. -/
def clockText (c : Clock) : String :=
  let base := s!"{padded 2 c.hour}:{padded 2 c.minute}:{padded 2 c.second}"
  if c.micro == 0 then base else s!"{base}.{padded 6 c.micro}"

/-- An offset in minutes as `+01:00`. -/
def offsetText (minutes : Int) : String :=
  let sign := if minutes < 0 then "-" else "+"
  s!"{sign}{padded 2 (minutes.natAbs / 60)}:{padded 2 (minutes.natAbs % 60)}"

/-- The interchange form: `T` between date and time, `Z` for universal time. -/
def interchange : Moment → String
  | .date d => dayText d
  | .time c => clockText c
  | .instant d c none => s!"{dayText d}T{clockText c}"
  | .instant d c (some offset) =>
    let zone := if offset == 0 then "Z" else offsetText offset
    s!"{dayText d}T{clockText c}{zone}"

/-- The plain form: a blank between date and time, universal time as `+00:00`. -/
def plain : Moment → String
  | .date d => dayText d
  | .time c => clockText c
  | .instant d c none => s!"{dayText d} {clockText c}"
  | .instant d c (some offset) => s!"{dayText d} {clockText c}{offsetText offset}"

/-- The clock fields of the quoted form; trailing zero seconds and microseconds are left out. -/
def clockFields (c : Clock) : List String :=
  let base := [toString c.hour, toString c.minute]
  if c.micro != 0 then base ++ [toString c.second, toString c.micro]
  else if c.second != 0 then base ++ [toString c.second]
  else base

/-- The offset of the quoted form. -/
def zoneField (minutes : Int) : String :=
  let seconds := minutes * 60
  if seconds == 0 then "tzinfo=datetime.timezone.utc"
  else
    let days := Int.fdiv seconds 86400
    let rest := seconds - days * 86400
    let span := if days == 0 then s!"seconds={rest}"
      else if rest == 0 then s!"days={days}" else s!"days={days}, seconds={rest}"
    s!"tzinfo=datetime.timezone(datetime.timedelta({span}))"

/-- The quoted form, field by field. -/
def literal : Moment → String
  | .date d => s!"datetime.date({d.year}, {d.month}, {d.day})"
  | .time c =>
    let fields := ", ".intercalate (clockFields c)
    s!"datetime.time({fields})"
  | .instant d c offset =>
    let fields := [toString d.year, toString d.month, toString d.day] ++ clockFields c ++
      (match offset with
      | none => []
      | some minutes => [zoneField minutes])
    let inside := ", ".intercalate fields
    s!"datetime.datetime({inside})"

end Moment

end RuleAudit
