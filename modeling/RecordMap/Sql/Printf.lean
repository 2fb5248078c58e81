import RecordMap.Sql.Datum

/-!
# The `printf` function

`formatValues fmt args` writes the format text with each conversion replaced by the next
argument, as the engine's `printf` (also named `format`) does. A conversion is
`%[flags][width][.precision]type`:

* flags: `-` pads on the right, `+` or a blank writes a sign before positive numbers, `#` is the
  alternate form (`0x` before hex, the point kept), `!` the second alternate form (characters
  instead of bytes for strings, more digits and a kept `.0` for doubles), `0` pads with zeros,
  `,` groups whole digits in threes;
* a width or precision of `*` takes the next argument;
* types: `d` `i` signed decimal, `u` unsigned, `x` `X` hex, `o` octal, `r` ordinal (`1st`),
  `p` hex, `f` `e` `E` `g` `G` doubles, `s` `z` text, `q` text with quotes doubled, `Q` the same
  in quotes (or `NULL`), `w` text with double quotes doubled, `c` the first character, and `%%`.

Arguments past the last one read as zero or as no text. An unknown conversion ends the output.
Widths and precisions count bytes, except under `!` for text, where they count characters.
-/

namespace RecordMap.Sql

/-- The arguments of a `printf` not yet used. -/
abbrev PrintfArgs := List Datum

/-- The next argument as a 64-bit integer. -/
def nextInt : PrintfArgs → Int × PrintfArgs
  | [] => (0, [])
  | d :: rest => (d.intValue, rest)

/-- The next argument as a double. -/
def nextReal : PrintfArgs → Float × PrintfArgs
  | [] => (0.0, [])
  | d :: rest => (d.realValue, rest)

/-- The next argument as text, up to its first zero byte; none for null or no argument. -/
def nextText : PrintfArgs → Option Bytes × PrintfArgs
  | [] => (none, [])
  | d :: rest => (d.text?.map untilNul, rest)

/-- The flags, width and precision of a conversion. -/
structure Spec where
  leftJustify : Bool := false
  prefix? : Option UInt8 := none
  alternate : Bool := false
  altForm2 : Bool := false
  zeroPad : Bool := false
  thousands : Bool := false
  width : Nat := 0
  precision : Option Nat := none
  deriving Inhabited

/-- Whether a byte is an ASCII digit. -/
def isDigitCode (b : UInt8) : Bool := 48 ≤ b && b ≤ 57

/-- Reads decimal digits: their value kept to 31 bits, and what follows. -/
def readNumber (acc : Nat) : Bytes → Nat × Bytes
  | b :: rest => if isDigitCode b then readNumber ((acc * 10 + (b.toNat - 48)) % Nat.pow 2 32) rest else (acc % Nat.pow 2 31, b :: rest)
  | [] => (acc % Nat.pow 2 31, [])

/-- Reads the flags of a conversion up to its type character. -/
def readSpec (spec : Spec) (args : PrintfArgs) : Nat → Bytes → Spec × PrintfArgs × Bytes
  | 0, fmt => (spec, args, fmt)
  | fuel + 1, fmt =>
    match fmt with
    | [] => (spec, args, [])
    | c :: rest =>
      if c == 45 then readSpec { spec with leftJustify := true } args fuel rest
      else if c == 43 then readSpec { spec with prefix? := some 43 } args fuel rest
      else if c == 32 then readSpec { spec with prefix? := some 32 } args fuel rest
      else if c == 35 then readSpec { spec with alternate := true } args fuel rest
      else if c == 33 then readSpec { spec with altForm2 := true } args fuel rest
      else if c == 48 then readSpec { spec with zeroPad := true } args fuel rest
      else if c == 44 then readSpec { spec with thousands := true } args fuel rest
      else if c == 108 then
        -- length modifiers change nothing for values
        let rest := match rest with
          | 108 :: more => more
          | more => more
        (spec, args, rest)
      else if isDigitCode c then
        let (w, rest) := readNumber 0 (c :: rest)
        match rest with
        | 46 :: _ | 108 :: _ => readSpec { spec with width := w } args fuel rest
        | _ => ({ spec with width := w }, args, rest)
      else if c == 42 then
        let (w, args) := nextInt args
        let w32 := w.toInt32.toInt
        let spec := if w32 < 0 then
            { spec with leftJustify := true, width := if w32 ≥ -2147483647 then (-w32).toNat else 0 }
          else { spec with width := w32.toNat }
        match rest with
        | 46 :: _ | 108 :: _ => readSpec spec args fuel rest
        | _ => (spec, args, rest)
      else if c == 46 then
        match rest with
        | 42 :: more =>
          let (p, args) := nextInt args
          let p32 := p.toInt32.toInt
          let precision := if p32 < 0 then (if p32 ≥ -2147483647 then some (-p32).toNat else none)
            else some p32.toNat
          let spec := { spec with precision }
          match more with
          | 108 :: _ => readSpec spec args fuel more
          | _ => (spec, args, more)
        | _ =>
          let (p, more) := readNumber 0 rest
          let spec := { spec with precision := some p }
          match more with
          | 108 :: _ => readSpec spec args fuel more
          | _ => (spec, args, more)
      else (spec, args, fmt)

/-- The digits of a natural in a base, most significant first, with the given digit
characters. -/
def radixDigits (digits : String) (base : Nat) (n : Nat) : Bytes :=
  go n (n + 1) []
where
  go (n : Nat) : Nat → Bytes → Bytes
    | 0, acc => acc
    | fuel + 1, acc =>
      let d := (digits.toList.getD (n % base) '0').toNat.toUInt8
      if n / base == 0 then d :: acc else go (n / base) fuel (d :: acc)

/-- Digits grouped in threes from the right with commas. -/
def groupThousands (ds : Bytes) : Bytes :=
  let n := ds.length
  (ds.zipIdx.flatMap fun (d, i) =>
    let place := n - 1 - i
    if place > 0 && place % 3 == 0 then [d, 44] else [d])

/-- Pads a converted field to the width with blanks, on the left unless left-justified. -/
def padField (spec : Spec) (width : Nat) (body : Bytes) : Bytes :=
  if body.length ≥ width then body
  else
    let pad := List.replicate (width - body.length) (32 : UInt8)
    if spec.leftJustify then body ++ pad else pad ++ body

/-- The width made larger by the continuation bytes of the body, under `!`. -/
def widthForChars (spec : Spec) (body : Bytes) : Nat :=
  if spec.altForm2 && spec.width > 0 then spec.width + (body.filter isContinuation).length
  else spec.width

/-- An integer conversion: `signed` for `d`, `i` and `r`. -/
def integerField (spec : Spec) (signed ordinal : Bool) (base : Nat) (digits : String) (prefixText : Bytes)
    (v : Int) : Bytes :=
  let (mag, sign) : Nat × Option UInt8 :=
    if signed then (if v < 0 then (v.natAbs, some 45) else (v.toNat, spec.prefix?))
    else ((v % Nat.pow 2 64).toNat, none)
  let alternate := spec.alternate && mag != 0
  let precision := spec.precision.getD 0
  let precision := if spec.zeroPad && precision + (if sign.isSome then 1 else 0) < spec.width then
      spec.width - (if sign.isSome then 1 else 0) else precision
  let suffix : Bytes := if ordinal then
      let x := mag % 10
      let x := if x ≥ 4 || (mag / 10) % 10 == 1 then 0 else x
      (["th", "st", "nd", "rd"].getD x "th").toUTF8.toList
    else []
  let ds := radixDigits digits base mag ++ suffix
  let ds := if ds.length < precision then List.replicate (precision - ds.length) (48 : UInt8) ++ ds else ds
  let ds := if spec.thousands then groupThousands ds else ds
  let ds := match sign with
    | some s => s :: ds
    | none => ds
  let ds := if alternate then prefixText ++ ds else ds
  padField spec spec.width ds

/-- A double conversion. -/
def realField (spec : Spec) (kind : FloatKind) (capital : Bool) (x : Float) : Bytes :=
  let f : FloatFormat := {
    kind, capital, precision := spec.precision, width := spec.width,
    leftJustify := spec.leftJustify, zeroPad := spec.zeroPad,
    signChar := spec.prefix?.map fun b => Char.ofNat b.toNat,
    alternate := spec.alternate, extended := spec.altForm2, thousands := spec.thousands }
  bytesOf (f.render x)

/-- The bytes of text to show under a precision: bytes, or characters under `!`. -/
def takePrecision (spec : Spec) (b : Bytes) : Bytes :=
  match spec.precision with
  | none => b
  | some p =>
    if spec.altForm2 then
      let rec take : Nat → Bytes → Bytes
        | 0, _ => []
        | _, [] => []
        | k + 1, x :: rest =>
          let (cont, more) := if x.toNat ≥ 0xC0 then (rest.takeWhile isContinuation, rest.dropWhile isContinuation)
            else ([], rest)
          x :: cont ++ take k more
      take p b
    else b.take p

/-- A `q`, `Q` or `w` conversion: the text with its quote character doubled. -/
def escapedField (spec : Spec) (q : UInt8) (enclose : Bool) (arg : Option Bytes) : Bytes :=
  let isNull := arg.isNone
  let text := arg.getD (if enclose then "NULL".toUTF8.toList else "(NULL)".toUTF8.toList)
  let text := takePrecision spec text
  let body := text.flatMap fun c => if c == q then [c, c] else [c]
  let body := if enclose && !isNull then q :: body ++ [q] else body
  padField spec (widthForChars spec body) body

/-- Writes the format with the arguments. -/
def formatValues (fmt : Bytes) (args : PrintfArgs) : Bytes :=
  go (untilNul fmt) args (fmt.length + 1) []
where
  go (fmt : Bytes) (args : PrintfArgs) : Nat → Bytes → Bytes
    | 0, acc => acc
    | fuel + 1, acc =>
      match fmt with
      | [] => acc
      | c :: rest =>
        if c != 37 then
          let plain := (c :: rest).takeWhile (· != 37)
          go ((c :: rest).drop plain.length) args fuel (acc ++ plain)
        else
          match rest with
          | [] => acc ++ [37]
          | _ =>
            let (spec, args, rest) := readSpec {} args (rest.length + 1) rest
            match rest with
            | [] => acc
            | t :: more =>
              let out : Option (Bytes × PrintfArgs) :=
                if t == 100 || t == 105 then
                  let (v, args) := nextInt args
                  some (integerField spec true false 10 "0123456789" [] v, args)
                else if t == 114 then
                  let (v, args) := nextInt args
                  some (integerField { spec with thousands := false } true true 10 "0123456789" [] v, args)
                else if t == 117 then
                  let (v, args) := nextInt args
                  some (integerField spec false false 10 "0123456789" [] v, args)
                else if t == 120 || t == 112 then
                  let (v, args) := nextInt args
                  some (integerField { spec with thousands := false } false false 16 "0123456789abcdef"
                    [48, 120] v, args)
                else if t == 88 then
                  let (v, args) := nextInt args
                  some (integerField { spec with thousands := false } false false 16 "0123456789ABCDEF"
                    [48, 88] v, args)
                else if t == 111 then
                  let (v, args) := nextInt args
                  some (integerField { spec with thousands := false } false false 8 "01234567" [48] v, args)
                else if t == 102 then
                  let (x, args) := nextReal args
                  some (realField spec .fixed false x, args)
                else if t == 101 || t == 69 then
                  let (x, args) := nextReal args
                  some (realField spec .exponent (t == 69) x, args)
                else if t == 103 || t == 71 then
                  let (x, args) := nextReal args
                  some (realField spec .general (t == 71) x, args)
                else if t == 115 || t == 122 then
                  let (s, args) := nextText args
                  let body := takePrecision spec (s.getD [])
                  some (padField spec (widthForChars spec body) body, args)
                else if t == 113 then
                  let (s, args) := nextText args
                  some (escapedField spec 39 false s, args)
                else if t == 81 then
                  let (s, args) := nextText args
                  some (escapedField spec 39 true s, args)
                else if t == 119 then
                  let (s, args) := nextText args
                  some (escapedField spec 34 false s, args)
                else if t == 99 then
                  let (s, args) := nextText args
                  let ch : Bytes := match s with
                    | some (x :: rest) =>
                      if x.toNat ≥ 0xC0 then x :: (rest.takeWhile isContinuation).take 3 else [x]
                    | _ => [0]
                  let copies := match spec.precision with
                    | some p => if p > 1 then p else 1
                    | none => 1
                  let body := (List.replicate copies ch).flatten
                  some (padField spec (widthForChars { spec with altForm2 := true } body) body, args)
                else if t == 37 then some (padField spec spec.width [37], args)
                else if t == 110 then some ([], args)
                else none
              match out with
              | some (bytes, args) => go more args fuel (acc ++ bytes)
              | none => acc

end RecordMap.Sql
