import RecordMap.Sql.Functions
import RecordMap.Sql.Printf
import RecordMap.Sql.RealRead
import RecordMap.Time.Calendar

/-!
# Date and time functions

The date and time functions read a moment from their first argument, change it by each of the
modifiers after it, and write it out. A `Moment` holds the moment in whichever forms are known so
far: a julian day count in milliseconds, a calendar date, a time of day with a zone offset, or a
raw number not yet read as either. Each form is computed from another when it is needed:

* the day count from the date and time (`Moment.withDay`), the date 2000-01-01 standing in for a
  missing date, and a year outside -4713..9999 being a failure;
* the date and the time of day from the day count (`Moment.withDate`, `Moment.withClock`).

A first argument is a date `YYYY-MM-DD` with an optional time `HH:MM[:SS[.fff]]` after blanks or
a `T`, a time alone, `now`, or a number: a number in the julian day range is read as a day
count, any other stays raw for a modifier such as `unixepoch` to read. Times may carry a zone,
`Z` or `+HH:MM`, which is subtracted. Local time is the universal time.

The result is null when any argument is null or not understood, or when the moment falls
outside the years 0000 to 9999 of the julian day count.
-/

namespace RecordMap.Sql

open RecordMap.Numeral

/-- A moment under construction, with the forms of it that are known. -/
structure Moment where
  /-- The julian day count times 86400000. -/
  day : Int := 0
  year : Int := 0
  month : Int := 0
  date : Int := 0
  hour : Int := 0
  minute : Int := 0
  /-- The zone offset in minutes. -/
  zone : Int := 0
  seconds : Float := 0.0
  hasDay : Bool := false
  /-- Whether `seconds` holds a number that is not yet a date. -/
  raw : Bool := false
  hasDate : Bool := false
  hasClock : Bool := false
  hasZone : Bool := false
  /-- Whether a zone was written, so that `utc` leaves the moment alone. -/
  zoneSet : Bool := false
  failed : Bool := false
  /-- Whether results show milliseconds. -/
  subsec : Bool := false
  deriving Inhabited

/-- The failed moment: every form forgotten. -/
def Moment.failure : Moment := { failed := true }

/-- The day count of 1970-01-01 00:00, in milliseconds. -/
def unixEpochDay : Int := 210866760000000

/-- The largest day count the functions accept: 9999-12-31 23:59:59.999. -/
def lastDay : Int := 464269060799999

/-- Whether a day count is one the functions accept. -/
def validDay (d : Int) : Bool := 0 ≤ d && d ≤ lastDay

/-- Whether a byte is a blank: a space, a tab, a line feed, a vertical tab, a form feed or a
carriage return. -/
def isBlankByte (b : UInt8) : Bool := b == 32 || (9 ≤ b && b ≤ 13)

/-- The byte at a place of a text, 0 past its end. -/
def byteAt (b : Bytes) (i : Nat) : UInt8 := b.getD i 0

/-- Whether two texts are the same up to ASCII case. -/
def sameText (a : Bytes) (b : String) : Bool := a.map lowerByte == (bytesOf b).map lowerByte

/-- Whether a text starts with a word, up to ASCII case. -/
def startsWithText (a : Bytes) (b : String) : Bool :=
  let w := bytesOf b
  (a.take w.length).map lowerByte == w.map lowerByte

/-- A double, when the whole text is a number. -/
def wholeNumber? (b : Bytes) : Option Float :=
  let r := readReal b
  match r.verdict with
  | .integer | .real => some r.value
  | _ => none

/-- A field of fixed digits: how many digits, the least and greatest value, and the byte that
must follow it (0 for the last field). -/
structure DigitField where
  count : Nat
  least : Nat
  most : Nat
  next : UInt8

/-- Reads fields of fixed digits, each followed by its separator: the values of the fields read
before the first that does not fit. -/
def readFields : List DigitField → Bytes → List Nat
  | [], _ => []
  | f :: rest, b =>
    let ds := b.take f.count
    if ds.length < f.count || !ds.all isDigitByte then []
    else
      let v := ds.foldl (fun a d => 10 * a + (d.toNat - 48)) 0
      let after := b.drop f.count
      if v < f.least || v > f.most || (f.next != 0 && byteAt after 0 != f.next) then []
      else v :: (if f.next == 0 then [] else readFields rest (after.drop 1))

/-- `YYYY-MM-DD`. -/
def dateFields : List DigitField := [⟨4, 0, 14712, 45⟩, ⟨2, 1, 12, 45⟩, ⟨2, 1, 31, 0⟩]

/-- `HH:MM` of a time. -/
def clockFields : List DigitField := [⟨2, 0, 24, 58⟩, ⟨2, 0, 59, 0⟩]

/-- `HH:MM` of a zone. -/
def zoneFields : List DigitField := [⟨2, 0, 14, 58⟩, ⟨2, 0, 59, 0⟩]

/-- `SS` of a time. -/
def secondFields : List DigitField := [⟨2, 0, 59, 0⟩]

/-- The years, months and days of a shift `YYYY-MM-DD`, with `width` year digits. -/
def shiftFields (width : Nat) : List DigitField := [⟨width, 0, 14712, 45⟩, ⟨2, 0, 12, 45⟩, ⟨2, 0, 31, 0⟩]

namespace Moment

/-- Forgets the date, the time and the zone. -/
def clear (p : Moment) : Moment := { p with hasDate := false, hasClock := false, hasZone := false }

/-- Reads a raw number: a day count when it is in range. -/
def ofRaw (p : Moment) (r : Float) : Moment :=
  let p := { p with seconds := r, raw := true }
  if r >= 0.0 && r < 5373484.5 then { p with day := realToInt (r * 86400000.0 + 0.5), hasDay := true }
  else p

/-- Computes the day count from the date and the time of day. -/
def withDay (p : Moment) : Moment :=
  if p.hasDay then p
  else
    let (y, m, d) := if p.hasDate then (p.year, p.month, p.date) else (2000, 1, 1)
    if y < -4713 || y > 9999 || p.raw then failure
    else
      let (y, m) := if m ≤ 2 then (y - 1, m + 12) else (y, m)
      let a := y.tdiv 100
      let b := 2 - a + a.tdiv 4
      let x1 := (36525 * (y + 4716)).tdiv 100
      let x2 := (306001 * (m + 1)).tdiv 10000
      let day := realToInt ((floatOfInt (x1 + x2 + d + b) - 1524.5) * 86400000.0)
      let p := { p with day, hasDay := true }
      if p.hasClock then
        let day := p.day + p.hour * 3600000 + p.minute * 60000 + realToInt (p.seconds * 1000.0 + 0.5)
        if p.hasZone then
          { p with day := day - p.zone * 60000, hasDate := false, hasClock := false, hasZone := false }
        else { p with day }
      else p

/-- Computes the date from the day count. -/
def withDate (p : Moment) : Moment :=
  if p.hasDate then p
  else if !p.hasDay then { p with year := 2000, month := 1, date := 1, hasDate := true }
  else if !validDay p.day then failure
  else
    let z : Int := (p.day + 43200000).tdiv 86400000
    let a := realToInt ((floatOfInt z - 1867216.25) / 36524.25)
    let a := z + 1 + a - a.tdiv 4
    let b := a + 1524
    let c := realToInt ((floatOfInt b - floatOfDecimal false 1221 (-1)) / 365.25)
    let d : Int := (36525 * ((c.toNat % 32768 : Nat) : Int)).tdiv 100
    let e := realToInt (floatOfInt (b - d) / floatOfDecimal false 306001 (-4))
    let x1 := realToInt (floatOfDecimal false 306001 (-4) * floatOfInt e)
    let month := if e < 14 then e - 1 else e - 13
    { p with date := b - d - x1, month, year := if month > 2 then c - 4716 else c - 4715, hasDate := true }

/-- Computes the time of day from the day count. -/
def withClock (p : Moment) : Moment :=
  if p.hasClock then p
  else
    let p := p.withDay
    let ms := (p.day + 43200000).tmod 86400000
    let minutes := ms.tdiv 60000
    { p with seconds := floatOfInt (ms.tmod 60000) / 1000.0, minute := minutes.tmod 60,
             hour := minutes.tdiv 60, raw := false, hasClock := true }

/-- Computes the date and the time of day. -/
def withFields (p : Moment) : Moment := p.withDate.withClock

/-- The moment of the statement: `now` milliseconds after 1970. -/
def current (p : Moment) (now : Int) : Bool × Moment :=
  let day := now + unixEpochDay
  if day > 0 then (false, { p with day, hasDay := true }) else (true, p)

/-- Reads a zone after a time: blanks, then `Z` or a signed `HH:MM`, then blanks to the end.
The flag is whether it failed. -/
def readZone (b : Bytes) (p : Moment) : Bool × Moment :=
  let b := b.dropWhile isBlankByte
  let p := { p with zone := 0 }
  let zulu (b : Bytes) (p : Moment) : Bool × Moment :=
    (!(b.dropWhile isBlankByte).isEmpty, { p with zoneSet := true })
  match b with
  | [] => (false, p)
  | c :: rest =>
    if c == 45 || c == 43 then
      match readFields zoneFields rest with
      | [h, m] =>
        let sign : Int := if c == 45 then -1 else 1
        zulu (rest.drop 5) { p with zone := sign * ((m : Int) + (h : Int) * 60) }
      | _ => (true, p)
    else if c == 90 || c == 122 then zulu rest p
    else (true, p)

/-- The value of the digits of a fraction, and the digits left after them. -/
def readFraction (acc scale : Float) : Bytes → Float × Float
  | c :: rest =>
    if isDigitByte c then readFraction (acc * 10.0 + floatOfNat (c.toNat - 48)) (scale * 10.0) rest
    else (acc, scale)
  | [] => (acc, scale)

/-- Reads a time `HH:MM[:SS[.fff]]` and its zone. The flag is whether it failed. -/
def readClock (b : Bytes) (p : Moment) : Bool × Moment :=
  match readFields clockFields b with
  | [h, m] =>
    let b := b.drop 5
    let secs : Option (Nat × Float × Bytes) :=
      if byteAt b 0 == 58 then
        match readFields secondFields (b.drop 1) with
        | [s] =>
          let b := b.drop 3
          if byteAt b 0 == 46 && isDigitByte (byteAt b 1) then
            let digits := (b.drop 1).takeWhile isDigitByte
            let (ms, scale) := readFraction 0.0 1.0 digits
            some (s, ms / scale, (b.drop 1).drop digits.length)
          else some (s, 0.0, b)
        | _ => none
      else some (0, 0.0, b)
    match secs with
    | none => (true, p)
    | some (s, ms, b) =>
      let p := { p with hasDay := false, raw := false, hasClock := true, hour := h, minute := m,
                        seconds := floatOfNat s + ms }
      let (bad, p) := readZone b p
      if bad then (true, p) else (false, { p with hasZone := p.zone != 0 })
  | _ => (true, p)

/-- Reads a date `[-]YYYY-MM-DD` with an optional time. The flag is whether it failed. -/
def readDate (b : Bytes) (p : Moment) : Bool × Moment :=
  let (neg, b) := if byteAt b 0 == 45 then (true, b.drop 1) else (false, b)
  match readFields dateFields b with
  | [y, m, d] =>
    let b := (b.drop 10).dropWhile fun c => isBlankByte c || c == 84
    let (bad, p) := readClock b p
    let p? : Option Moment :=
      if !bad then some p else if b.isEmpty then some { p with hasClock := false } else none
    match p? with
    | none => (true, p)
    | some p =>
      let p := { p with hasDay := false, hasDate := true, year := if neg then -(y : Int) else y,
                        month := m, date := d }
      (false, if p.hasZone then p.withDay else p)
  | _ => (true, p)

/-- Reads the first argument as text: a date, a time, `now`, a number, or `subsec`. -/
def readText (b : Bytes) (p : Moment) (now : Int) : Bool × Moment :=
  let (bad, p) := readDate b p
  if !bad then (false, p)
  else
    let (bad, p) := readClock b p
    if !bad then (false, p)
    else if sameText b "now" then p.current now
    else
      match wholeNumber? b with
      | some r => (false, p.ofRaw r)
      | none =>
        if sameText b "subsec" || sameText b "subsecond" then { p with subsec := true }.current now
        else (true, p)

/-- The moment as local time, which is universal time. -/
def toLocal (p : Moment) : Moment :=
  let p := p.withDay
  let (t, shift) :=
    if p.day < unixEpochDay || p.day > 213014145600000 then
      let x := p.withFields
      let shift := (2000 + x.year.tmod 4) - x.year
      let x := { x with year := x.year + shift, hasDay := false }.withDay
      (x.day.tdiv 1000 - 210866760000, shift)
    else (p.day.tdiv 1000 - 210866760000, 0)
  let days := t.fdiv 86400
  let secs := t.fmod 86400
  let (y, m, d) := RecordMap.Time.civilOfDays days
  { p with year := y - shift, month := m, date := d, hour := secs / 3600, minute := (secs % 3600) / 60,
           seconds := floatOfInt (secs % 60) + floatOfInt (p.day.tmod 1000) * floatOfDecimal false 1 (-3),
           hasDate := true, hasClock := true, hasDay := false, raw := false, hasZone := false,
           failed := false }

/-- The moment read as local time and turned into universal time. -/
def toUniversal (p : Moment) : Moment :=
  if p.zoneSet then p
  else
    let p := p.withDay
    let step (guess err : Int) : Int × Int :=
      let guess := guess - err
      let back := ({ day := guess, hasDay := true } : Moment).toLocal.withDay
      (guess, back.day - p.day)
    let (g, e) := step p.day 0
    let (g, e) := if e != 0 then step g e else (g, e)
    let (g, e) := if e != 0 then step g e else (g, e)
    let (g, _) := if e != 0 then step g e else (g, e)
    { day := g, hasDay := true, zoneSet := true }

/-- Moves a month count into 1..12, carrying whole years. -/
def carryMonths (p : Moment) : Moment :=
  let x := if p.month > 0 then (p.month - 1).tdiv 12 else (p.month - 12).tdiv 12
  { p with year := p.year + x, month := p.month - x * 12 }

end Moment

/-- A unit a modifier `NNN units` may name: its name, the limit on the amount, and its length in
seconds. -/
structure ShiftUnit where
  name : String
  limit : Float
  seconds : Float

/-- The units of `NNN units` modifiers. The limits are single-precision values. -/
def unitTable : List ShiftUnit :=
  [⟨"second", 464269992787968.0, 1.0⟩, ⟨"minute", 7737900007424.0, 60.0⟩,
   ⟨"hour", 128969998336.0, 3600.0⟩, ⟨"day", 5373485.0, 86400.0⟩,
   ⟨"month", 176546.0, 2592000.0⟩, ⟨"year", 14713.0, 31536000.0⟩]

namespace Moment

/-- Applies a shift `±HH:MM[:SS[.fff]]` to a moment. -/
def shiftClock (p : Moment) (negative : Bool) (b : Bytes) : Bool × Moment :=
  let b := if isDigitByte (byteAt b 0) then b else b.drop 1
  let (bad, tx) := readClock b {}
  if bad then (true, p)
  else
    let tx := tx.withDay
    let ms := tx.day - 43200000
    let ms := ms - ms.tdiv 86400000 * 86400000
    let ms := if negative then -ms else ms
    let p := p.withDay.clear
    (false, { p with day := p.day + ms })

/-- Applies a modifier `NNN units` to a moment. -/
def shiftUnits (p : Moment) (r : Float) (b : Bytes) : Bool × Moment :=
  let b := b.dropWhile isBlankByte
  let n := b.length
  if n > 10 || n < 3 then (true, p)
  else
    let n := if lowerByte (byteAt b (n - 1)) == 115 then n - 1 else n
    let p := p.withDay
    let rounder := if r < 0.0 then -0.5 else 0.5
    let unit? := unitTable.find? fun (u : ShiftUnit) =>
      u.name.length == n && startsWithText (b.take n) u.name && r > -u.limit && r < u.limit
    match unit? with
    | none => (true, p.clear)
    | some u =>
      let whole := realToInt r
      let (p, r) :=
        if u.name == "month" then
          let p := p.withFields
          ({ { p with month := p.month + whole }.carryMonths with hasDay := false }, r - floatOfInt whole)
        else if u.name == "year" then
          let p := p.withFields
          ({ p with year := p.year + whole, hasDay := false }, r - floatOfInt whole)
        else (p, r)
      let p := p.withDay
      (false, { p with day := p.day + realToInt (r * 1000.0 * u.seconds + rounder) }.clear)

/-- Applies a modifier that starts with a sign or a digit: `NNN units`, `±HH:MM[:SS[.fff]]`,
or `±YYYY-MM-DD[ HH:MM[:SS[.fff]]]`. -/
def shiftBy (p : Moment) (z : Bytes) : Bool × Moment :=
  let first := byteAt z 0
  let stops (n : Nat) : Bool :=
    let c := byteAt z n
    c == 0 || c == 58 || isBlankByte c ||
      (c == 45 && ((n == 5 && (readFields [⟨4, 0, 14712, 0⟩] (z.drop 1)).length == 1) ||
                   (n == 6 && (readFields [⟨5, 0, 14712, 0⟩] (z.drop 1)).length == 1)))
  let n := ((List.range z.length).drop 1).find? stops |>.getD (max z.length 1)
  match wholeNumber? (z.take n) with
  | none => (true, p)
  | some r =>
    if byteAt z n == 45 then
      if first != 43 && first != 45 then (true, p)
      else
        let fields := readFields (shiftFields (if n == 5 then 4 else 5)) (z.drop 1)
        let z := if n == 5 then z else z.drop 1
        match fields with
        | [y, m, d] =>
          if m ≥ 12 || d ≥ 31 then (true, p)
          else
            let p := { p.withFields with hasDay := false }
            let (p, d) : Moment × Int := if first == 45 then
                ({ p with year := p.year - y, month := p.month - m }, -(d : Int))
              else ({ p with year := p.year + y, month := p.month + m }, d)
            let p := p.carryMonths.withDay
            let p := { p with hasClock := false, hasDate := false, day := p.day + d * 86400000 }
            if byteAt z 11 == 0 then (false, p)
            else if isBlankByte (byteAt z 11) && (readFields clockFields (z.drop 12)).length == 2 then
              p.shiftClock (first == 45) (z.drop 12)
            else (true, p)
        | _ => (true, p)
    else if byteAt z n == 58 then p.shiftClock (first == 45) z
    else p.shiftUnits r (z.drop n)

/-- Applies the modifier at argument place `place` to a moment. The flag is whether it failed;
the moment is kept either way, as a failure ends the call. -/
def modify (p : Moment) (z : Bytes) (place : Nat) : Bool × Moment :=
  let c := lowerByte (byteAt z 0)
  if c == 97 then
    if !sameText z "auto" then (true, p)
    else if place > 1 then (true, p)
    else if !p.raw || p.hasDay then (false, { p with raw := false })
    else if p.seconds >= -210866760000.0 && p.seconds <= 253402300799.0 then
      let r := p.seconds * 1000.0 + 210866760000000.0
      (false, { p.clear with day := realToInt (r + 0.5), hasDay := true, raw := false })
    else (true, p)
  else if c == 106 then
    if !sameText z "julianday" then (true, p)
    else if place > 1 then (true, p)
    else if p.hasDay && p.raw then (false, { p with raw := false })
    else (true, p)
  else if c == 108 then
    if sameText z "localtime" then (false, p.toLocal) else (true, p)
  else if c == 117 then
    if sameText z "unixepoch" && p.raw then
      if place > 1 then (true, p)
      else
        let r := p.seconds * 1000.0 + 210866760000000.0
        if r >= 0.0 && r < 464269060800000.0 then
          (false, { p.clear with day := realToInt (r + 0.5), hasDay := true, raw := false })
        else (true, p)
    else if sameText z "utc" then (false, p.toUniversal)
    else (true, p)
  else if c == 119 then
    match (if startsWithText z "weekday " then wholeNumber? (z.drop 8) else none) with
    | some r =>
      let n := realToInt r
      if r >= 0.0 && r < 7.0 && floatOfInt n == r then
        let p := { p.withFields with hasZone := false, hasDay := false }.withDay
        let w := ((p.day + 129600000).tdiv 86400000).tmod 7
        let w := if w > n then w - 7 else w
        (false, { p with day := p.day + (n - w) * 86400000 }.clear)
      else (true, p)
    | none => (true, p)
  else if c == 115 then
    if !startsWithText z "start of " then
      if sameText z "subsec" || sameText z "subsecond" then (false, { p with subsec := true })
      else (true, p)
    else if !p.hasDay && !p.hasDate && !p.hasClock then (true, p)
    else
      let rest := z.drop 9
      let p := { p.withDate with hasClock := true, hour := 0, minute := 0, seconds := 0.0, raw := false,
                                 hasZone := false, hasDay := false }
      if sameText rest "month" then (false, { p with date := 1 })
      else if sameText rest "year" then (false, { p with month := 1, date := 1 })
      else if sameText rest "day" then (false, p)
      else (true, p)
  else if c == 43 || c == 45 || isDigitByte c then p.shiftBy z
  else (true, p)

end Moment

/-- Reads the arguments of a date and time function into a moment: none when the result is
null. -/
def readMoment (now : Int) (args : List Datum) : Option Moment :=
  let start : Option (Bool × Moment) := match args with
    | [] => some ((({} : Moment)).current now)
    | a :: _ =>
      match a with
      | .integer _ | .real _ => some (false, ({} : Moment).ofRaw a.realValue)
      | _ =>
        match a.text? with
        | some b => some (({} : Moment).readText (untilNul b) now)
        | none => none
  match start with
  | none => none
  | some (true, _) => none
  | some (false, p) =>
    let step (acc : Option Moment) (m : Datum × Nat) : Option Moment :=
      match acc, m.1.text? with
      | some p, some z =>
        let (bad, p) := p.modify (untilNul z) m.2
        if bad then none else some p
      | _, _ => none
    match ((args.drop 1).zipIdx 1).foldl step (some p) with
    | none => none
    | some p =>
      let p := p.withDay
      if p.failed || !validDay p.day then none
      else if args.length == 1 && p.hasDate && p.date > 28 then some { p with hasDate := false }
      else some p

/-- Two digits of a number, `'0'` padded. -/
def twoDigits (n : Int) : Bytes :=
  [48 + (n.tdiv 10 % 10).toNat.toUInt8, 48 + (n % 10).toNat.toUInt8]

/-- A value written by a `printf` format. -/
def formatted (fmt : String) (args : List Datum) : Bytes := formatValues (bytesOf fmt) args

/-- The date of a moment as `YYYY-MM-DD`, with a `-` before a year before 0. -/
def dateBytes (p : Moment) : Bytes :=
  let y := p.year.natAbs
  let digit (k : Nat) : UInt8 := 48 + (y / k % 10).toUInt8
  (if p.year < 0 then [45] else []) ++ [digit 1000, digit 100, digit 10, digit 1, 45] ++
    twoDigits p.month ++ [45] ++ twoDigits p.date

/-- The time of a moment as `HH:MM:SS`, or `HH:MM:SS.SSS` when it shows milliseconds. -/
def clockBytes (p : Moment) : Bytes :=
  let secs : Bytes :=
    if p.subsec then
      let s := realToInt (1000.0 * p.seconds + 0.5)
      [48 + (s.tdiv 10000 % 10).toNat.toUInt8, 48 + (s.tdiv 1000 % 10).toNat.toUInt8, 46,
       48 + (s.tdiv 100 % 10).toNat.toUInt8, 48 + (s.tdiv 10 % 10).toNat.toUInt8, 48 + (s % 10).toNat.toUInt8]
    else twoDigits (realToInt p.seconds)
  twoDigits p.hour ++ [58] ++ twoDigits p.minute ++ [58] ++ secs

/-- The seconds since 1970 of a moment, with milliseconds when it shows them. -/
def unixSeconds (p : Moment) : Datum :=
  if p.subsec then .real (floatOfInt (p.day - unixEpochDay) / 1000.0)
  else .integer (p.day.tdiv 1000 - 210866760000)

/-- Writes a moment by a `strftime` format: none for an unknown conversion. -/
def strftimeBytes (p : Moment) (fmt : Bytes) : Option Bytes :=
  let p := p.withDay.withFields
  let weekday : Int := ((p.day + 129600000).tdiv 86400000).tmod 7
  let dayOfYear : Int :=
    let y := { p with hasDay := false, month := 1, date := 1 }.withDay
    (p.day - y.day + 43200000).tdiv 86400000
  let conv (c : UInt8) : Option Bytes :=
    match Char.ofNat c.toNat with
    | 'd' => some (formatted "%02d" [.integer p.date])
    | 'e' => some (formatted "%2d" [.integer p.date])
    | 'f' => some (formatted "%06.3f" [.real (if p.seconds > 59.999 then 59.999 else p.seconds)])
    | 'F' => some (formatted "%04d-%02d-%02d" [.integer p.year, .integer p.month, .integer p.date])
    | 'H' => some (formatted "%02d" [.integer p.hour])
    | 'k' => some (formatted "%2d" [.integer p.hour])
    | 'I' | 'l' =>
      let h := if p.hour > 12 then p.hour - 12 else p.hour
      let h := if h == 0 then 12 else h
      some (formatted (if c == 73 then "%02d" else "%2d") [.integer h])
    | 'W' =>
      let wd := ((p.day + 43200000).tdiv 86400000).tmod 7
      some (formatted "%02d" [.integer ((dayOfYear + 7 - wd).tdiv 7)])
    | 'j' => some (formatted "%03d" [.integer (dayOfYear + 1)])
    | 'J' => some (formatted "%.16g" [.real (floatOfInt p.day / 86400000.0)])
    | 'm' => some (formatted "%02d" [.integer p.month])
    | 'M' => some (formatted "%02d" [.integer p.minute])
    | 'p' => some (bytesOf (if p.hour ≥ 12 then "PM" else "AM"))
    | 'P' => some (bytesOf (if p.hour ≥ 12 then "pm" else "am"))
    | 'R' => some (formatted "%02d:%02d" [.integer p.hour, .integer p.minute])
    | 's' =>
      if p.subsec then some (formatted "%.3f" [.real (floatOfInt (p.day - unixEpochDay) / 1000.0)])
      else some (formatted "%lld" [.integer (p.day.tdiv 1000 - 210866760000)])
    | 'S' => some (formatted "%02d" [.integer (realToInt p.seconds)])
    | 'T' => some (formatted "%02d:%02d:%02d" [.integer p.hour, .integer p.minute,
        .integer (realToInt p.seconds)])
    | 'u' => some [48 + (if weekday == 0 then 7 else weekday).toNat.toUInt8]
    | 'w' => some [48 + weekday.toNat.toUInt8]
    | 'Y' => some (formatted "%04d" [.integer p.year])
    | '%' => some [37]
    | _ => none
  let rec go : Bytes → Bytes → Option Bytes
    | [], acc => some acc
    | c :: rest, acc =>
      if c != 37 then go rest (acc ++ [c])
      else
        match rest with
        | [] => none
        | cf :: more =>
          match conv cf with
          | some out => go more (acc ++ out)
          | none => none
  go fmt []

/-- The difference of two moments as `±YYYY-MM-DD HH:MM:SS.SSS`: whole years and months first,
counted from the later moment back, then the rest. -/
def timeDifference (a b : Moment) : Bytes :=
  let a := a.withFields
  let b := b.withFields
  let recompute (m : Moment) : Moment := { m with hasDay := false }.withDay
  let later := a.day >= b.day
  let y : Int := if later then a.year - b.year else b.year - a.year
  let b := if y != 0 then recompute { b with year := a.year } else b
  let m : Int := if later then a.month - b.month else b.month - a.month
  let (y, m) := if m < 0 then (y - 1, m + 12) else (y, m)
  let b := if m != 0 then recompute { b with month := a.month } else b
  -- at most twelve months need taking back
  let back (fuel : Nat) : Moment × Int × Int → Moment × Int × Int :=
    Nat.rec (motive := fun _ => Moment × Int × Int → Moment × Int × Int) id
      (fun _ rec (st : Moment × Int × Int) =>
        let (b, y, m) := st
        if (later && a.day < b.day) || (!later && a.day > b.day) then
          let (m, y) := if m - 1 < 0 then (11, y - 1) else (m - 1, y)
          let b := if later then
              (if b.month - 1 < 1 then { b with month := 12, year := b.year - 1 } else { b with month := b.month - 1 })
            else
              (if b.month + 1 > 12 then { b with month := 1, year := b.year + 1 } else { b with month := b.month + 1 })
          rec (recompute b, y, m)
        else st) fuel
  let (b, y, m) := back 24 (b, y, m)
  let span := if later then a.day - b.day else b.day - a.day
  let d := ({ day := span + 148699540800000, hasDay := true } : Moment).withFields
  formatted "%c%04d-%02d-%02d %02d:%02d:%06.3f"
    [Datum.ofString (if later then "+" else "-"), .integer y, .integer m, .integer (d.date - 1),
     .integer d.hour, .integer d.minute, .real d.seconds]

/-- The value of a date and time function. -/
def applyDate (env : CallEnv) (f : DateFn) (args : List Datum) : Except Fault Datum :=
  let text (b : Bytes) : Datum := .text b
  let now := env.now
  pure <| match f with
    | .date | .currentDate =>
      match readMoment now (if f == .currentDate then [] else args) with
      | some p => text (dateBytes p.withFields)
      | none => .null
    | .time | .currentTime =>
      match readMoment now (if f == .currentTime then [] else args) with
      | some p => text (clockBytes p.withFields)
      | none => .null
    | .datetime | .currentTimestamp =>
      match readMoment now (if f == .currentTimestamp then [] else args) with
      | some p => let p := p.withFields; text (dateBytes p ++ [32] ++ clockBytes p)
      | none => .null
    | .julianday =>
      match readMoment now args with
      | some p => .real (floatOfInt p.withDay.day / 86400000.0)
      | none => .null
    | .unixepoch =>
      match readMoment now args with
      | some p => unixSeconds p.withDay
      | none => .null
    | .strftime =>
      match args with
      | [] => .null
      | fmt :: rest =>
        match fmt.text?, readMoment now rest with
        | some fb, some p =>
          match strftimeBytes p (untilNul fb) with
          | some out => text out
          | none => .null
        | _, _ => .null
    | .timediff =>
      match readMoment now (args.take 1), readMoment now (args.drop 1 |>.take 1) with
      | some a, some b => text (timeDifference a b)
      | _, _ => .null

end RecordMap.Sql
