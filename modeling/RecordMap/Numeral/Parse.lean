import RecordMap.Numeral.Round

/-!
# Reading decimal numerals

`readFloat?` reads the decimal text of a double and rounds it correctly: an optional sign,
then `inf`, `infinity` or `nan` in any case, or digits with an optional point (digits on at
least one side of it) and an optional exponent `e` or `E` with an optional sign. Nothing else
may stand around it. `readInt?` reads an optional sign and at least one digit.
-/

namespace RecordMap.Numeral

/-- The value of a run of decimal digits. -/
def digitsToNat (ds : List Char) : Nat := ds.foldl (fun n c => 10 * n + (c.toNat - 48)) 0

/-- An optional sign, and whether it was a minus. -/
def splitSign (cs : List Char) : Bool × List Char :=
  match cs with
  | '-' :: r => (true, r)
  | '+' :: r => (false, r)
  | _ => (false, cs)

/-- Reads an optionally signed integer. -/
def readInt? (s : String) : Option Int :=
  let (neg, cs) := splitSign s.toList
  if cs.isEmpty || !cs.all Char.isDigit then none
  else some (if neg then -(digitsToNat cs : Int) else digitsToNat cs)

/-- Reads the decimal text of a double, correctly rounded. -/
def readFloat? (s : String) : Option Float :=
  let (neg, cs) := splitSign s.toList
  let word := String.ofList (cs.map Char.toLower)
  let sign (x : Float) : Float := if neg then -x else x
  if word == "inf" || word == "infinity" then some (sign positiveInfinity)
  else if word == "nan" then some (0.0 / 0.0)
  else
    let whole := cs.takeWhile Char.isDigit
    let rest := cs.dropWhile Char.isDigit
    let (frac, rest) := match rest with
      | '.' :: r => (r.takeWhile Char.isDigit, r.dropWhile Char.isDigit)
      | _ => ([], rest)
    if whole.isEmpty && frac.isEmpty then none
    else
      let expo : Option Int := match rest with
        | [] => some 0
        | e :: r =>
          if e == 'e' || e == 'E' then
            let (eneg, ds) := splitSign r
            if ds.isEmpty || !ds.all Char.isDigit then none
            else some (if eneg then -(digitsToNat ds : Int) else digitsToNat ds)
          else none
      expo.map fun e =>
        floatOfDecimal neg (digitsToNat (whole ++ frac)) (e - frac.length)

end RecordMap.Numeral
