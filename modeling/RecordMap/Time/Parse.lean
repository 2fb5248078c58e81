import RecordMap.Time.Clock
import RecordMap.Text.Blank

/-!
# Reading timestamps against a pattern

A pattern is a list of `Piece`s. Each numeric piece first skips white space and then reads
one up to its width of digits (the year any number of digits after an explicit sign), a
blank piece skips any white space, a literal must match exactly, the fraction is a point with
at least one digit (digits past the ninth are read and ignored) or nothing, and the offset is
a sign, two hour digits, an optional colon and two minute digits. After the last piece the
text must be used up. Only then are the fields checked: a real calendar day in the
representable years and a clock time below 24:00:00.
-/

namespace RecordMap.Time

open RecordMap.Text

/-- One element of a timestamp pattern. -/
inductive Piece where
  | year
  | month
  | day
  | hour
  | minute
  | second
  | fraction
  | offset
  | blank
  | literal (c : Char)
  deriving Repr, DecidableEq

/-- The fields read so far. -/
structure Reading where
  year : Option Int := none
  month : Option Nat := none
  day : Option Nat := none
  hour : Option Nat := none
  minute : Option Nat := none
  second : Option Nat := none
  nano : Option Nat := none
  offset : Option Int := none
  deriving Repr, Inhabited

/-- The value of a digit character. -/
def digitValue (c : Char) : Nat := c.toNat - '0'.toNat

/-- The value of a list of digits, most significant first. -/
def digitsValue (ds : List Char) : Nat := ds.foldl (fun n c => 10 * n + digitValue c) 0

/-- Reads one to `width` digits. -/
def scanDigits (width : Nat) (cs : List Char) : Option (Nat × List Char) :=
  let ds := (cs.takeWhile Char.isDigit).take width
  if ds.isEmpty then none else some (digitsValue ds, cs.drop ds.length)

/-- Reads a year: a sign and any digits, or up to four digits. -/
def scanYear (cs : List Char) : Option (Int × List Char) :=
  match cs with
  | '-' :: rest => (scanDigits rest.length rest).map fun (n, r) => (-(n : Int), r)
  | '+' :: rest => (scanDigits rest.length rest).map fun (n, r) => ((n : Int), r)
  | _ => (scanDigits 4 cs).map fun (n, r) => ((n : Int), r)

/-- Reads a fraction of a second as nanoseconds, from at least one digit. -/
def scanFraction (cs : List Char) : Option (Nat × List Char) :=
  let ds := cs.takeWhile Char.isDigit
  if ds.isEmpty then none
  else
    let used := ds.take 9
    some (digitsValue used * Nat.pow 10 (9 - used.length), cs.drop ds.length)

/-- Reads an offset `±HH:MM`, the colon optional, as seconds. -/
def scanOffset (cs : List Char) : Option (Int × List Char) :=
  let sign : Option (Int × List Char) := match cs with
    | '+' :: rest => some (1, rest)
    | '-' :: rest => some (-1, rest)
    | c :: rest => if c.toNat = 0x2212 then some (-1, rest) else none
    | [] => none
  sign.bind fun (s, rest) =>
    match rest with
    | h1 :: h2 :: rest =>
      if h1.isDigit && h2.isDigit then
        let rest := rest.dropWhile (fun c => c == ':' || isBlank c)
        match rest with
        | m1 :: m2 :: rest =>
          if m1.isDigit && m2.isDigit then
            let mins := digitsValue [m1, m2]
            if mins ≥ 60 then none
            else some (s * ((digitsValue [h1, h2] * 3600 + mins * 60 : Nat) : Int), rest)
          else none
        | _ => none
      else none
    | _ => none

/-- Reads the text against the pattern, or fails. -/
def readPieces : List Piece → List Char → Reading → Option Reading
  | [], [], r => some r
  | [], _ :: _, _ => none
  | p :: ps, cs, r =>
    let numeric (width : Nat) (set : Nat → Reading) : Option Reading :=
      (scanDigits width (dropBlank cs)).bind fun (n, rest) => readPieces ps rest (set n)
    match p with
    | .year => (scanYear (dropBlank cs)).bind fun (y, rest) =>
        readPieces ps rest { r with year := some y }
    | .month => numeric 2 fun n => { r with month := some n }
    | .day => numeric 2 fun n => { r with day := some n }
    | .hour => numeric 2 fun n => { r with hour := some n }
    | .minute => numeric 2 fun n => { r with minute := some n }
    | .second => numeric 2 fun n => { r with second := some n }
    | .fraction =>
      match cs with
      | '.' :: rest => (scanFraction rest).bind fun (n, rest) =>
          readPieces ps rest { r with nano := some n }
      | _ => readPieces ps cs r
    | .offset => (scanOffset (dropBlank cs)).bind fun (o, rest) =>
        readPieces ps rest { r with offset := some o }
    | .blank => readPieces ps (dropBlank cs) r
    | .literal c =>
      match cs with
      | d :: rest => if c = d then readPieces ps rest r else none
      | [] => none

/-- The timestamp of the fields read, if they name a real day and a clock time; second 60 is a
leap second at the end of any minute. A missing clock reads as midnight. -/
def Reading.timestamp? (r : Reading) : Option Timestamp := do
  let y ← r.year
  let m ← r.month
  let d ← r.day
  if !isValidDate y m d then none
  let h := r.hour.getD 0
  let mi := r.minute.getD 0
  let s := r.second.getD 0
  if h ≥ 24 ∨ mi ≥ 60 ∨ s > 60 then none
  some (Timestamp.ofFields ⟨y, m, d, h, mi, s, r.nano.getD 0⟩)

/-- Date, `sep`, clock and an optional fraction. -/
def dateTimePieces (sep : List Piece) : List Piece :=
  [.year, .literal '-', .month, .literal '-', .day] ++ sep ++
    [.hour, .literal ':', .minute, .literal ':', .second, .fraction]

/-- `2024-02-29T13:45:12.5` -/
def isoPieces : List Piece := dateTimePieces [.literal 'T']

/-- `2024-02-29 13:45:12.5`; the blank matches any run of white space, or none. -/
def spacedPieces : List Piece := dateTimePieces [.blank]

/-- `2024-02-29` -/
def datePieces : List Piece := [.year, .literal '-', .month, .literal '-', .day]

/-- `2024-02-29T13:45:12.5+05:30` -/
def offsetPieces : List Piece := isoPieces ++ [.offset]

/-- Reads a timestamp against one pattern. -/
def readTimestamp? (pieces : List Piece) (s : String) : Option Timestamp :=
  (readPieces pieces s.toList {}).bind Reading.timestamp?

/-- Reads a timestamp with a date only as midnight of that day. -/
def readDate? (s : String) : Option Timestamp :=
  (readPieces datePieces s.toList {}).bind fun r =>
    Reading.timestamp? { r with hour := none, minute := none, second := none, nano := none }

/-- Reads `2024-02-29T13:45:12.5`. -/
def Timestamp.parseIso? (s : String) : Option Timestamp := readTimestamp? isoPieces s

/-- Reads a timestamp as stored in text: ISO form, then with a blank, then a date alone. -/
def Timestamp.parseStored? (s : String) : Option Timestamp :=
  (readTimestamp? isoPieces s).orElse fun _ =>
    (readTimestamp? spacedPieces s).orElse fun _ => readDate? s

/-- Reads `2024-02-29T13:45:12.5+05:30`: the wall clock at the offset, which must be less
than a day, and the instant it names in the representable years. -/
def OffsetTimestamp.parse? (s : String) : Option OffsetTimestamp := do
  let r ← readPieces offsetPieces s.toList {}
  let o ← r.offset
  if o.natAbs ≥ 86400 then none
  let wall ← r.timestamp?
  let utc := wall.addNanos (-(o * nanosPerSecond))
  if !utc.inRange then none
  some ⟨utc, o⟩

end RecordMap.Time
