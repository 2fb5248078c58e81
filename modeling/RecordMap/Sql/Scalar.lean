import RecordMap.Sql.Functions
import RecordMap.Sql.Pattern
import RecordMap.Sql.Printf
import RecordMap.Sql.DateTime
import RecordMap.Sql.JsonFunctions

/-!
# Scalar functions

`applyScalar env coll f args` is the value of a scalar function on argument values. `coll` is
the collation that `min`, `max` and `nullif` compare under. Text functions work on the bytes of
their arguments; those that read an argument as a string of the C kind stop at its first zero
byte (`like`, `glob`, `substr` on text, `trim`'s character set, `unicode`, `printf`'s format),
the others read all of it. Lengths and positions of text count characters, of bytes count bytes.

Errors a function raises are faults: an integer overflow in `abs`, a bad escape of `like`, a
blob too big for `zeroblob` or `randomblob`.
-/

namespace RecordMap.Sql

open RecordMap.Numeral

/-- The version of the engine these functions belong to. -/
def engineVersion : String := "3.45.1"

/-- The source identifier of the engine version. -/
def engineSourceId : String :=
  "2024-01-30 16:01:20 e876e51a0ed5c5b3126f52e532044363a014bc594cfefa87ffb5b82257cc467a"

/-- The largest text or blob a value may be, in bytes. -/
def lengthLimit : Nat := 1000000000

/-- The fault for a value past the length limit. -/
def tooBig : Fault := Fault.coded 18 "string or blob too big"

/-- A 32-bit signed reading of an integer, as functions taking an `int` argument see it. -/
def toInt32Value (i : Int) : Int := i.toInt32.toInt

/-- `abs`: the magnitude; the smallest integer has none. -/
def absValue : Datum → Except Fault Datum
  | .null => pure .null
  | .integer i =>
    if i == minI64 then throw (Fault.error "integer overflow") else pure (.integer i.natAbs)
  | d =>
    let x := d.realValue
    pure (.real (if x < 0.0 then -x else x))

/-- `length`: characters of text up to a zero byte, bytes of anything else. -/
def lengthValue : Datum → Datum
  | .null => .null
  | .text b => .integer (charCount b)
  | d => .integer d.bytes.length

/-- `octet_length`: the bytes of the value. -/
def octetLengthValue : Datum → Datum
  | .null => .null
  | d => .integer d.bytes.length

/-- Steps over one character of text, as positions in text count them. -/
def skipTextChar : Bytes → Bytes
  | [] => []
  | b :: rest => if b.toNat ≥ 0xC0 then rest.dropWhile isContinuation else rest

/-- The characters of text before its first zero byte. -/
def countChars (b : Bytes) : Nat :=
  go (untilNul b) (b.length + 1)
where
  go (b : Bytes) : Nat → Nat
    | 0 => 0
    | fuel + 1 => if b.isEmpty then 0 else 1 + go (skipTextChar b) fuel

/-- Drops `n` characters of text, stopping at a zero byte. -/
def dropChars : Nat → Bytes → Bytes
  | 0, b => b
  | n + 1, b =>
    match b with
    | [] => []
    | x :: rest => if x == 0 then b else dropChars n (skipTextChar (x :: rest))

/-- Takes `n` characters of text, stopping at a zero byte. -/
def takeChars : Nat → Bytes → Bytes
  | 0, _ => []
  | n + 1, b =>
    match b with
    | [] => []
    | x :: rest =>
      if x == 0 then []
      else
        let after := skipTextChar (x :: rest)
        let taken := (x :: rest).take ((x :: rest).length - after.length)
        taken ++ takeChars n after

/-- `substr` of text or bytes: `start` counts from 1, from the end when negative; a negative
count takes the characters before the start instead. Both are read as 32-bit integers. -/
def substrValue (x : Datum) (start : Int) (count? : Option Int) : Datum :=
  let p1 := toInt32Value start
  let isBlob := match x with | .blob _ => true | _ => false
  let bytes := x.bytes
  let len : Int := if isBlob then bytes.length else if p1 < 0 then countChars bytes else 0
  let (p2, negP2) : Int × Bool := match count? with
    | some c =>
      let c := toInt32Value c
      if c < 0 then (-c, true) else (c, false)
    | none => (lengthLimit, false)
  let (p1, p2) :=
    if p1 < 0 then
      let p1 := p1 + len
      if p1 < 0 then (0, max 0 (p2 + p1)) else (p1, p2)
    else if p1 > 0 then (p1 - 1, p2)
    else if p2 > 0 then (p1, p2 - 1)
    else (p1, p2)
  let (p1, p2) :=
    if negP2 then
      let q := p1 - p2
      if q < 0 then (0, p2 + q) else (q, p2)
    else (p1, p2)
  if isBlob then
    let p2 := if p1 + p2 > len then max 0 (len - p1) else p2
    .blob ((bytes.drop p1.toNat).take p2.toNat)
  else
    let rest := dropChars p1.toNat bytes
    .text (takeChars p2.toNat rest)

/-- `instr`: the character position (byte position for two blobs) of the first occurrence of
the needle, 1 for an empty needle, 0 when absent. -/
def instrValue (hay needle : Datum) : Datum :=
  if hay.isNull || needle.isNull then .null else
  let isText := match hay, needle with
    | .blob _, .blob _ => false
    | _, _ => true
  let h := hay.bytes
  let n := needle.bytes
  if n.isEmpty then .integer 1 else
  .integer (go isText n h 1 (h.length + 1))
where
  go (isText : Bool) (n : Bytes) (h : Bytes) (pos : Nat) : Nat → Nat
    | 0 => 0
    | fuel + 1 =>
      if n.length > h.length then 0
      else if h.take n.length == n then pos
      else
        let next := match h with
          | [] => []
          | _ :: rest => if isText then rest.dropWhile isContinuation else rest
        go isText n next (pos + 1) fuel

/-- The characters of a trim set, each as its bytes. -/
def trimChars (set : Bytes) : List Bytes :=
  go (untilNul set) (set.length + 1)
where
  go (b : Bytes) : Nat → List Bytes
    | 0 => []
    | fuel + 1 =>
      if b.isEmpty then []
      else
        let after := skipTextChar b
        b.take (b.length - after.length) :: go after fuel

/-- Drops characters of the set from the front. -/
def trimFront (set : List Bytes) : Nat → Bytes → Bytes
  | 0, b => b
  | fuel + 1, b =>
    match set.find? fun c => !c.isEmpty && b.take c.length == c with
    | some c => trimFront set fuel (b.drop c.length)
    | none => b

/-- Drops characters of the set from the back. -/
def trimBack (set : List Bytes) : Nat → Bytes → Bytes
  | 0, b => b
  | fuel + 1, b =>
    match set.find? fun c => !c.isEmpty && c.length ≤ b.length && b.drop (b.length - c.length) == c with
    | some c => trimBack set fuel (b.take (b.length - c.length))
    | none => b

/-- `trim`, `ltrim` and `rtrim`: which ends to trim, and the character set (a blank when
absent). -/
def trimValue (front back : Bool) (x : Datum) (set? : Option Datum) : Datum :=
  match x with
  | .null => .null
  | _ =>
    let chars : Option (List Bytes) := match set? with
      | none => some [[32]]
      | some s => s.text?.map trimChars
    match chars with
    | none => .null
    | some chars =>
      let b := x.bytes
      let b := if front && !chars.isEmpty then trimFront chars (b.length + 1) b else b
      let b := if back && !chars.isEmpty then trimBack chars (b.length + 1) b else b
      .text b

/-- `replace`: every occurrence of the pattern replaced, left to right. An empty pattern leaves
the value as it is. -/
def replaceValue (x pat rep : Datum) : Datum :=
  match x.text?, pat.text? with
  | some s, some p =>
    if p.headD 0 == 0 then x
    else
      match rep.text? with
      | none => .null
      | some r => .text (go s p r (s.length + 1))
  | _, _ => .null
where
  go (s p r : Bytes) : Nat → Bytes
    | 0 => s
    | fuel + 1 =>
      match s with
      | [] => []
      | c :: rest =>
        if s.length ≥ p.length && s.take p.length == p then r ++ go (s.drop p.length) p r fuel
        else c :: go rest p r fuel

/-- `quote`: the value as a literal of the language. -/
def quoteValue : Datum → Datum
  | .null => .ofString "NULL"
  | .integer i => .ofString (intText i)
  | .real x =>
    let t := FloatFormat.render { kind := .general, precision := some 15, extended := true, zeroPad := true } x
    if (readReal (bytesOf t)).value == x then .ofString t
    else .ofString ((FloatFormat.render
      { kind := .exponent, precision := some 20, extended := true, zeroPad := true }) x)
  | .text b =>
    let body := (untilNul b).flatMap fun c => if c == 39 then [c, c] else [c]
    .text ([39] ++ body ++ [39])
  | .blob b => .text (bytesOf ("X'" ++ hexText b ++ "'"))

/-- `round`: to the nearest whole number by halves away from zero, or to `n` places through
the decimal text; always a double. -/
def roundValue (x : Datum) (places? : Option Datum) : Datum :=
  match places? with
  | some .null => .null
  | _ =>
    if x.isNull then .null else
    let n : Int := match places? with
      | some p => max 0 (min 30 p.intValue)
      | none => 0
    let r := x.realValue
    if r < -4503599627370496.0 || r > 4503599627370496.0 then .real r
    else if n == 0 then
      .real (floatOfInt (realToInt (r + (if r < 0.0 then -0.5 else 0.5))))
    else
      let t := FloatFormat.render { kind := .fixed, precision := some n.toNat, extended := true } r
      .real (readReal (bytesOf t)).value

/-- `sign`: -1, 0 or 1 for a number or text that reads wholly as one, else null. -/
def signValue (x : Datum) : Datum :=
  let n : Option Float := match x with
    | .integer i => some (floatOfInt i)
    | .real r => some r
    | .text b =>
      match Datum.numberOfWholeText b false with
      | some (.integer i) => some (floatOfInt i)
      | some (.real r) => some r
      | _ => none
    | _ => none
  match n with
  | some r => .integer (if r < 0.0 then -1 else if r > 0.0 then 1 else 0)
  | none => .null

/-- The soundex code of each ASCII letter, 0 for vowels and the like. -/
def soundexCode (b : UInt8) : Nat :=
  let c := (lowerByte (b % 128)).toNat
  if c == 98 || c == 102 || c == 112 || c == 118 then 1
  else if c == 99 || c == 103 || c == 106 || c == 107 || c == 113 || c == 115 || c == 120 || c == 122 then 2
  else if c == 100 || c == 116 then 3
  else if c == 108 then 4
  else if c == 109 || c == 110 then 5
  else if c == 114 then 6
  else 0

/-- Whether a byte is an ASCII letter. -/
def isAlphaByte (b : UInt8) : Bool := (65 ≤ b && b ≤ 90) || (97 ≤ b && b ≤ 122)

/-- `soundex`: the first letter and three digits of the sounds that follow, `?000` when there is
no letter. -/
def soundexValue (x : Datum) : Datum :=
  let b := untilNul (x.text?.getD [])
  match b.dropWhile (!isAlphaByte ·) with
  | [] => .ofString "?000"
  | first :: rest =>
    let (digits, _) := rest.foldl (fun (acc : List Nat × Nat) c =>
      let (ds, prev) := acc
      if ds.length ≥ 3 then acc
      else
        let code := soundexCode c
        if code > 0 then (if code != prev then (ds ++ [code], code) else acc) else (ds, 0))
      ([], soundexCode first)
    let digits := digits ++ List.replicate (3 - digits.length) 0
    .text (upperByte first :: digits.map fun d => (48 + d).toUInt8)

/-- `unhex`: the bytes of hex digit pairs, with characters of the optional set allowed between
pairs; null for anything else. -/
def unhexValue (x : Datum) (pass? : Option Datum) : Datum :=
  match x.text?, (match pass? with | some p => p.text? | none => some []) with
  | some hex, some pass =>
    let allowed := decodeChars pass
    match go allowed (untilNul hex) [] (hex.length + 1) with
    | some out => .blob out
    | none => .null
  | _, _ => .null
where
  go (allowed : List Nat) (b : Bytes) (acc : Bytes) : Nat → Option Bytes
    | 0 => some acc
    | fuel + 1 =>
      match b with
      | [] => some acc
      | c :: rest =>
        match hexDigitValue? (Char.ofNat c.toNat) with
        | some hi =>
          match rest with
          | d :: more =>
            match hexDigitValue? (Char.ofNat d.toNat) with
            | some lo => go allowed more (acc ++ [(hi * 16 + lo).toUInt8]) fuel
            | none => none
          | [] => none
        | none =>
          let (ch, after) := readChar b
          if allowed.contains ch then go allowed after acc fuel else none

/-- `char`: the characters of the code points, out-of-range ones as U+FFFD. -/
def charValue (args : List Datum) : Datum :=
  .text (args.flatMap fun d =>
    let x := d.intValue
    let c := if x < 0 || x > 0x10FFFF then 0xFFFD else x.toNat
    encodeChar c)

/-- `concat` of the non-empty texts, with a separator between them. -/
def concatValues (sep : Bytes) (args : List Datum) : Datum :=
  .text ((args.filterMap fun d => match d.text? with
      | some b => if b.isEmpty then none else some b
      | none => none).intersperse sep).flatten

/-- `min` and `max` of several values: null when any is; of equals, the last for `min` and the
first for `max`. -/
def extremeValue (isMax : Bool) (coll : Collation) (args : List Datum) : Datum :=
  match args with
  | [] => .null
  | first :: rest =>
    if args.any (·.isNull) then .null
    else rest.foldl (fun best d =>
      let o := compareDatum coll best d
      if isMax then (if o == .lt then d else best) else (if o != .lt then d else best)) first

/-- A pseudo-random 64-bit integer from a seed. -/
def randomInt (seed : Nat) : Int :=
  let x : Nat := (seed * 6364136223846793005 + 1442695040888963407) % Nat.pow 2 64
  if x ≥ Nat.pow 2 63 then (x : Int) - Nat.pow 2 64 else x

/-- `like` with an optional escape: the pattern, the text, and the escape value. -/
def likeValue (pattern text : Datum) (esc? : Option Datum) : Except Fault Datum := do
  if pattern.bytes.length > 50000 then throw (Fault.error "LIKE or GLOB pattern too complex")
  let (rules, esc) ← match esc? with
    | none => pure (some likeRules, 0)
    | some e =>
      match e.text? with
      | none => pure (none, 0)
      | some b =>
        let b := untilNul b
        if countChars b != 1 then throw (Fault.error "ESCAPE expression must be a single character")
        let c := (readChar b).1
        let r := likeRules
        let r := if c == r.matchAll then { r with matchAll := 0 } else r
        let r := if c == r.matchOne then { r with matchOne := 0 } else r
        pure (some r, c)
  match rules, pattern.text?, text.text? with
  | some r, some p, some t => pure (Datum.ofBool (patternMatches r esc p t))
  | _, _, _ => pure .null

/-- The value of a scalar function on its arguments. -/
def applyScalar (env : CallEnv) (coll : Collation) (f : ScalarFn) (args : List Datum) :
    Except Fault Datum :=
  let a0 := args.headD .null
  let a1 := args.getD 1 .null
  match f with
  | .abs => absValue a0
  | .changes => pure (.integer env.changes)
  | .totalChanges => pure (.integer env.totalChanges)
  | .lastInsertRowid => pure (.integer env.lastRowid)
  | .char => pure (charValue args)
  | .concat => pure (concatValues [] args)
  | .concatWs =>
    match a0.text? with
    | some sep => pure (concatValues sep args.tail)
    | none => pure .null
  | .printf =>
    match args with
    | fmt :: rest =>
      match fmt.text? with
      | some b => pure (.text (formatValues b rest))
      | none => pure .null
    | [] => pure .null
  | .glob =>
    if a0.bytes.length > 50000 then throw (Fault.error "LIKE or GLOB pattern too complex")
    else
      match a0.text?, a1.text? with
      | some p, some t => pure (Datum.ofBool (patternMatches globRules 0 p t))
      | _, _ => pure .null
  | .like => likeValue a0 a1 args[2]?
  | .hex => pure (.ofString (hexText a0.bytes))
  | .instr => pure (instrValue a0 a1)
  | .length => pure (lengthValue a0)
  | .octetLength => pure (octetLengthValue a0)
  | .lower => pure (match a0.text? with | some b => .text (b.map lowerByte) | none => .null)
  | .upper => pure (match a0.text? with | some b => .text (b.map upperByte) | none => .null)
  | .ltrim => pure (trimValue true false a0 args[1]?)
  | .rtrim => pure (trimValue false true a0 args[1]?)
  | .trim => pure (trimValue true true a0 args[1]?)
  | .max => pure (extremeValue true coll args)
  | .min => pure (extremeValue false coll args)
  | .nullif => pure (if compareDatum coll a0 a1 != .eq then a0 else .null)
  | .quote => pure (quoteValue a0)
  | .random => pure (.integer (randomInt env.seed))
  | .randomblob =>
    let n := a0.intValue
    let n := if n < 1 then 1 else n
    if n > lengthLimit then throw tooBig
    else pure (.blob ((List.range n.toNat).map fun i => ((randomInt (env.seed + i)) % 256).toNat.toUInt8))
  | .replace => pure (replaceValue a0 a1 (args.getD 2 .null))
  | .round => pure (roundValue a0 args[1]?)
  | .sign => pure (signValue a0)
  | .soundex => pure (soundexValue a0)
  | .sourceId => pure (.ofString engineSourceId)
  | .version => pure (.ofString engineVersion)
  | .substr =>
    match args with
    | [x, s] => pure (if x.isNull || s.isNull then .null else substrValue x s.intValue none)
    | [x, s, c] =>
      pure (if x.isNull || s.isNull || c.isNull then .null else substrValue x s.intValue (some c.intValue))
    | _ => pure .null
  | .typeof => pure (.ofString a0.typeName)
  | .unhex => pure (unhexValue a0 args[1]?)
  | .unicode =>
    match a0.text? with
    | some (b :: rest) => if b == 0 then pure .null else pure (.integer (readChar (b :: rest)).1)
    | _ => pure .null
  | .zeroblob =>
    let n := a0.intValue
    let n := if n < 0 then 0 else n
    if n > lengthLimit then throw tooBig else pure (.blob (List.replicate n.toNat 0))
  | .compileOptionGet => pure .null
  | .compileOptionUsed => pure (.integer 0)
  | .loadExtension => throw (Fault.error "not authorized")
  | .date d => applyDate env d args
  | .json j binary => applyJson j binary args

end RecordMap.Sql
