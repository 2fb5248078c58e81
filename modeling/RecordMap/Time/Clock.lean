import RecordMap.Time.Calendar

/-!
# Timestamps and intervals

A `Timestamp` is a wall-clock date and time with no zone, an `OffsetTimestamp` an instant
together with the offset from UTC at which it is read, and an `Interval` a signed length of
time. All three count nanoseconds in one integer: a timestamp from 1970-01-01T00:00:00, an
interval from zero. A timestamp may also stand in a leap second, the sixty-first second of a
minute: it then counts the nanoseconds of the minute's last regular second and is marked as the
second after it, shown as second `60`.

The written forms are those of ISO 8601 with the calendar's year rule: `2024-02-29 13:45:12.5`
for display, `2024-02-29T13:45:12.500000000` with nine fraction digits for exchange, and
`PT1.5S` for intervals.
-/

namespace RecordMap.Time

def nanosPerSecond : Int := 1000000000

def nanosPerDay : Int := 86400 * nanosPerSecond

/-- A date and time of day with no zone. -/
structure Timestamp where
  /-- Nanoseconds since 1970-01-01T00:00:00. -/
  nanos : Int
  /-- Whether the time lies in the leap second after the second that `nanos` is in. -/
  leap : Bool := false
  deriving Repr, DecidableEq, Inhabited

/-- An instant read at a fixed offset from UTC. -/
structure OffsetTimestamp where
  /-- The instant, as the UTC wall clock shows it. -/
  utc : Timestamp
  /-- Seconds that the local clock is ahead of UTC. -/
  offset : Int
  deriving Repr, DecidableEq, Inhabited

/-- A signed length of time. -/
structure Interval where
  /-- The length in nanoseconds. -/
  nanos : Int
  deriving Repr, DecidableEq, Inhabited

/-- The broken-down fields of a timestamp. -/
structure Fields where
  year : Int
  month : Nat
  day : Nat
  hour : Nat
  minute : Nat
  second : Nat
  nano : Nat
  deriving Repr, DecidableEq, Inhabited

namespace Timestamp

/-- Days since 1970-01-01, rounded down. -/
def day (t : Timestamp) : Int := t.nanos / nanosPerDay

def ofDay (t : Timestamp) : Nat := (t.nanos % nanosPerDay).toNat

/-- Whole seconds since the epoch, rounded down. -/
def seconds (t : Timestamp) : Int := t.nanos / nanosPerSecond

def subsecond (t : Timestamp) : Nat := (t.nanos % nanosPerSecond).toNat

/-- The date and clock fields; a leap second shows as second 60. -/
def fields (t : Timestamp) : Fields :=
  let (y, m, d) := civilOfDays t.day
  let s := t.ofDay / 1000000000
  { year := y, month := m, day := d, hour := s / 3600, minute := s / 60 % 60,
    second := if t.leap then 60 else s % 60, nano := t.ofDay % 1000000000 }

/-- The timestamp of a date and time of day, the fields taken as given; second 60 is the leap
second after second 59. -/
def ofFields (f : Fields) : Timestamp :=
  let second := if f.second = 60 then 59 else f.second
  ⟨daysOfCivil f.year f.month f.day * nanosPerDay
    + ((f.hour * 3600 + f.minute * 60 + second : Nat) : Int) * nanosPerSecond + f.nano,
    f.second = 60⟩

/-- The timestamp of a count of nanoseconds, outside any leap second. -/
def ofNanos (n : Int) : Timestamp := ⟨n, false⟩

/-- Nanoseconds since the epoch with a leap second counted on top of the second before it. -/
def linearNanos (t : Timestamp) : Int := if t.leap then t.nanos + nanosPerSecond else t.nanos

/-- Whether the date lies within the representable years. -/
def inRange (t : Timestamp) : Bool := decide (minDay ≤ t.day ∧ t.day ≤ maxDay)

/-- Midnight at the start of 1970-01-01, the default timestamp. -/
def epoch : Timestamp := ofNanos 0

/-- The timestamp `n` nanoseconds later, read on the same clock: a leap second stays one. -/
def addNanos (t : Timestamp) (n : Int) : Timestamp := { t with nanos := t.nanos + n }

end Timestamp

/-- A fraction of a second in the shortest of three, six or nine digits, with its point, and
nothing for a whole second. -/
def fractionText (nano : Nat) : String :=
  if nano = 0 then ""
  else if nano % 1000000 = 0 then "." ++ padded 3 (nano / 1000000)
  else if nano % 1000 = 0 then "." ++ padded 6 (nano / 1000)
  else "." ++ padded 9 nano

/-- The clock part `HH:MM:SS`. -/
def Fields.clockText (f : Fields) : String :=
  padded 2 f.hour ++ ":" ++ padded 2 f.minute ++ ":" ++ padded 2 f.second

/-- The date part `YYYY-MM-DD`. -/
def Fields.dateText (f : Fields) : String := Time.dateText f.year f.month f.day

namespace Timestamp

/-- Display text: date, a blank, clock, and the shortest fraction. -/
def display (t : Timestamp) : String :=
  let f := t.fields
  f.dateText ++ " " ++ f.clockText ++ fractionText f.nano

/-- Structural text: date, `T`, clock, and the shortest fraction. -/
def debugText (t : Timestamp) : String :=
  let f := t.fields
  f.dateText ++ "T" ++ f.clockText ++ fractionText f.nano

/-- Exchange text: date, `T`, clock, and always nine fraction digits. -/
def exchangeText (t : Timestamp) : String :=
  let f := t.fields
  f.dateText ++ "T" ++ f.clockText ++ "." ++ padded 9 f.nano

end Timestamp

/-- An offset from UTC written `+HH:MM`, with `:SS` only when `withSeconds` and the seconds
are not zero. -/
def offsetText (withSeconds : Bool) (offset : Int) : String :=
  let sign := if offset < 0 then "-" else "+"
  let a := offset.natAbs
  let secs := a % 60
  let base := sign ++ padded 2 (a / 3600) ++ ":" ++ padded 2 (a / 60 % 60)
  if withSeconds && secs != 0 then base ++ ":" ++ padded 2 secs else base

namespace OffsetTimestamp

/-- The wall clock at the offset. -/
def wallClock (t : OffsetTimestamp) : Timestamp := t.utc.addNanos (t.offset * nanosPerSecond)

def ofUtc (t : Timestamp) : OffsetTimestamp := ⟨t, 0⟩

/-- The default: the epoch at UTC. -/
def epoch : OffsetTimestamp := ofUtc Timestamp.epoch

/-- RFC 3339 text: local wall clock, shortest fraction, and the offset `+HH:MM`. -/
def rfc3339 (t : OffsetTimestamp) : String := t.wallClock.debugText ++ offsetText false t.offset

/-- Structural text: local wall clock and the offset, with seconds when it has some. -/
def debugText (t : OffsetTimestamp) : String := t.wallClock.debugText ++ offsetText true t.offset

/-- Exchange text: local wall clock with nine fraction digits and the offset `+HH:MM`. -/
def exchangeText (t : OffsetTimestamp) : String :=
  t.wallClock.exchangeText ++ offsetText false t.offset

end OffsetTimestamp

namespace Interval

/-- The longest interval: `2 ^ 63 - 1` milliseconds. -/
def maxNanos : Int := 9223372036854775807 * 1000000

/-- Whether the length lies within `± maxNanos`. -/
def inRange (d : Interval) : Bool := decide (-maxNanos ≤ d.nanos ∧ d.nanos ≤ maxNanos)

/-- Whole seconds, rounded down. -/
def seconds (d : Interval) : Int := d.nanos / nanosPerSecond

/-- Nanoseconds past the whole seconds, from 0 below 10 ^ 9. -/
def subsecond (d : Interval) : Nat := (d.nanos % nanosPerSecond).toNat

/-- Whole seconds, rounded toward zero. -/
def truncSeconds (d : Interval) : Int := d.nanos.tdiv nanosPerSecond

/-- Nanoseconds past the whole seconds toward zero, with the sign of the interval. -/
def truncSubsecond (d : Interval) : Int := d.nanos.tmod nanosPerSecond

def zero : Interval := ⟨0⟩

/-- The fraction digits of `nano` nanoseconds without trailing zeros. -/
def fractionDigits (nano : Nat) : String :=
  let s := padded 9 nano
  String.ofList (s.toList.reverse.dropWhile (· == '0')).reverse

/-- ISO 8601 duration text: `PT` and seconds with the fraction needed, `P0D` for zero, and a
leading minus for a negative interval. -/
def display (d : Interval) : String :=
  let sign := if d.nanos < 0 then "-" else ""
  let a := d.nanos.natAbs
  if a = 0 then "P0D"
  else
    let secs := a / 1000000000
    let nano := a % 1000000000
    let frac := if nano = 0 then "" else "." ++ fractionDigits nano
    sign ++ "PT" ++ toString secs ++ frac ++ "S"

end Interval

end RecordMap.Time
