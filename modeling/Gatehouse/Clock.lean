import Gatehouse.Text.Numeral

/-!
The two clocks of the service. The timer only ever moves forward; it measures waits and windows. The
wall clock gives dates. It may run apart from the timer or be set while a request is in hand, so it
is kept as what it shows at each reading of the timer. Both count nanoseconds.
-/
namespace Gatehouse

/-- A length of time in nanoseconds. -/
abbrev Nanos := Nat

/-- Both clocks at one moment. -/
structure Clock where
  /-- What the wall clock shows at each reading of the timer: nanoseconds since the start of 1970,
  possibly before it. -/
  calendar : Nanos → Int
  /-- Nanoseconds since the origin of the timer, which lies before the start of the program. -/
  timer : Nanos

namespace Clock

/-- The wall clock now. -/
def wall (clock : Clock) : Int := clock.calendar clock.timer

/-- A wall clock that keeps step with the timer. -/
def running (wall : Int) (timer : Nanos) : Clock := ⟨fun reading => wall + (reading - timer), timer⟩

/-- Both clocks some time later. -/
def later (clock : Clock) (pause : Nanos) : Clock := { clock with timer := clock.timer + pause }

/-- The whole seconds of the wall clock, rounded down. -/
def seconds (clock : Clock) : Int :=
  clock.wall.fdiv 1_000_000_000

end Clock

/-- The last nanosecond of the calendar, at the end of the year 262142. -/
def calendarEnd : Int := 8_210_266_876_799_999_999_999

/-- The first nanosecond of the calendar, at the start of the year -262143. -/
def calendarStart : Int := -8_334_601_228_800_000_000_000

/-- The longest time span in whole seconds that a signed count of milliseconds holds. -/
def longestSpan : Nat := 9223372036854775

/-- Whole seconds of a span, at least one. -/
def wholeSeconds (span : Nanos) : Nat :=
  max 1 (span / 1_000_000_000)

/-- The text of a span: the largest unit with a nonzero whole part, and the rest as a fraction
without trailing zeros. -/
def spanText (span : Nanos) : String :=
  let (unit, digits, name) :=
    if 1_000_000_000 ≤ span then (1_000_000_000, 9, "s")
    else if 1_000_000 ≤ span then (1_000_000, 6, "ms")
    else if 1_000 ≤ span then (1_000, 3, "µs")
    else (1, 0, "ns")
  let fraction := Numeral.decimalPadded digits (span % unit)
  let kept := (fraction.toList.reverse.dropWhile (· = '0')).reverse
  Numeral.decimal (span / unit) ++ (if kept.isEmpty then "" else "." ++ String.ofList kept) ++ name

/-- Year, month and day of a day number counted from 1970-01-01. Years are counted from March so
that the leap day comes last. -/
def civilDate (day : Int) : Int × Nat × Nat :=
  let shifted := day + 719468
  let era := shifted.fdiv 146097
  let dayOfEra := (shifted - era * 146097).toNat
  let yearOfEra := (dayOfEra - dayOfEra / 1460 + dayOfEra / 36524 - dayOfEra / 146096) / 365
  let dayOfYear := dayOfEra - (365 * yearOfEra + yearOfEra / 4 - yearOfEra / 100)
  let marchMonth := (5 * dayOfYear + 2) / 153
  let dayOfMonth := dayOfYear - (153 * marchMonth + 2) / 5 + 1
  let month := if marchMonth < 10 then marchMonth + 3 else marchMonth - 9
  (era * 400 + yearOfEra + (if month ≤ 2 then 1 else 0), month, dayOfMonth)

/-- A year of at least four digits; beyond four it carries a sign. -/
def yearText (year : Int) : String :=
  if 0 ≤ year ∧ year ≤ 9999 then Numeral.decimalPadded 4 year.toNat
  else if year < 0 then
    "-" ++ (if year.natAbs < 1000 then Numeral.decimalPadded 4 year.natAbs
      else Numeral.decimal year.natAbs)
  else "+" ++ Numeral.decimal year.natAbs

/-- The part of a second behind the point, in as many groups of three digits as it needs. -/
def fractionText (nanos : Nanos) : String :=
  if nanos = 0 then ""
  else if nanos % 1_000_000 = 0 then "." ++ Numeral.decimalPadded 3 (nanos / 1_000_000)
  else if nanos % 1_000 = 0 then "." ++ Numeral.decimalPadded 6 (nanos / 1_000)
  else "." ++ Numeral.decimalPadded 9 nanos

/-- Universal date and time, with a fraction where there is one. -/
def timestamp (wall : Int) : String :=
  let seconds := wall.fdiv 1_000_000_000
  let (year, month, day) := civilDate (seconds.fdiv 86400)
  let ofDay := (seconds - seconds.fdiv 86400 * 86400).toNat
  let two := Numeral.decimalPadded 2
  yearText year ++ "-" ++ two month ++ "-" ++ two day ++ "T" ++ two (ofDay / 3600) ++ ":" ++
    two (ofDay / 60 % 60) ++ ":" ++ two (ofDay % 60) ++
    fractionText (wall - seconds * 1_000_000_000).toNat ++ "Z"

end Gatehouse
