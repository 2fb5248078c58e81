import RecordMap.Sql.Datum

/-!
# Affinities

Each column has an affinity, read off its declared type, that says what a value stored there
becomes; an expression that is not a column has none. The declared type is searched for `INT`
(integer), then `CHAR`, `CLOB` or `TEXT` (text), `BLOB` (no conversion), `REAL`, `FLOA` or `DOUB`
(real), in the order the letters occur; a type with none of them is numeric, and a column
with no type converts nothing.

* Numeric and integer affinity turn a text that is wholly a number into that number, and an
  integral double strictly inside the 64-bit range into an integer.
* Real affinity does the same, and the value then reads back as a double, so that a negative
  zero is stored as zero.
* Text affinity writes numbers as text.

`Datum.withAffinity` is the conversion of a stored value; comparisons use
`Datum.forComparison`, which reads a number from text but keeps a decimal as a double, and
`Datum.castTo` is the conversion of `CAST`.
-/

namespace RecordMap.Sql

open RecordMap.Numeral

/-- What a column or an expression converts values to. -/
inductive Affinity where
  | none
  | blob
  | text
  | numeric
  | integer
  | real
  deriving Repr, DecidableEq, Inhabited

namespace Affinity

/-- Whether the affinity reads numbers out of text. -/
def isNumeric : Affinity → Bool
  | .numeric | .integer | .real => true
  | _ => false

/-- Whether the affinity is a column's (any but `none`). -/
def isSome : Affinity → Bool
  | .none => false
  | _ => true

/-- Whether the upper-cased characters start with the given word. -/
def startsWithWord (cs : List Char) (w : String) : Bool := cs.take w.length == w.toList

/-- Scans the upper-cased type name from the left, as the engine does. -/
def scanType : Affinity → List Char → Affinity
  | aff, [] => aff
  | aff, cs@(_ :: rest) =>
    if startsWithWord cs "INT" then .integer
    else if startsWithWord cs "CHAR" || startsWithWord cs "CLOB" || startsWithWord cs "TEXT" then
      scanType .text rest
    else if startsWithWord cs "BLOB" && (aff == .numeric || aff == .real) then scanType .blob rest
    else if (startsWithWord cs "REAL" || startsWithWord cs "FLOA" || startsWithWord cs "DOUB") &&
        aff == .numeric then scanType .real rest
    else scanType aff rest

/-- The affinity of a type name; one with none of the words is numeric. -/
def ofTypeName (declared : String) : Affinity :=
  scanType .numeric (declared.toList.map Char.toUpper)

/-- The affinity of a declared column type; a column with no type converts nothing. -/
def ofType (declared : String) : Affinity :=
  if declared.isEmpty then .blob else ofTypeName declared

/-- The affinity two operands of a comparison are converted by: numeric when either is a numeric
column, nothing when both are other columns, else the one column's. -/
def comparison (a b : Affinity) : Affinity :=
  if a.isSome && b.isSome then
    if a.isNumeric || b.isNumeric then .numeric else .blob
  else if a.isSome then a else b

end Affinity

namespace Datum

/-- The number a stored text becomes under a numeric affinity, if it is wholly a number: an
integer when it reads as one or its double is a small whole number, else the double, made an
integer when `tryInt` and integral. -/
def numberOfWholeText (b : Bytes) (tryInt : Bool) : Option Datum :=
  let r := readReal b
  match r.verdict with
  | .none | .prefixOnly => none
  | verdict =>
    let asInt :=
      verdict == .integer &&
        (realSameAsInt r.value (realToInt r.value) || (readInt b).verdict == .exact)
    if asInt then
      if realSameAsInt r.value (realToInt r.value) then some (.integer (realToInt r.value))
      else some (.integer (readInt b).value)
    else if tryInt then
      match realAsInteger? r.value with
      | some i => some (.integer i)
      | none => some (.real r.value)
    else some (.real r.value)

/-- The value as a column of the given affinity stores it. -/
def withAffinity (a : Affinity) (d : Datum) : Datum :=
  match a with
  | .none | .blob => d
  | .text =>
    match d with
    | .integer _ | .real _ => .text (d.text?.getD [])
    | other => other
  | .numeric | .integer | .real =>
    match d with
    | .text b => (numberOfWholeText b true).getD d
    | .real x =>
      match realAsInteger? x with
      | some i => .integer i
      | none => d
    | other => other

/-- A value read back from a column of the given affinity: a real column gives integers back as
doubles. -/
def readBack (a : Affinity) (d : Datum) : Datum :=
  match a, d with
  | .real, .integer i => .real (floatOfInt i)
  | _, d => d

/-- The value as a comparison of the given affinity reads it: numeric affinities read text that
is wholly a number, text affinity writes numbers as text. -/
def forComparison (a : Affinity) (d : Datum) : Datum :=
  if a.isNumeric then
    match d with
    | .text b => (numberOfWholeText b false).getD d
    | other => other
  else if a == .text then
    match d with
    | .integer _ | .real _ => .text (d.text?.getD [])
    | other => other
  else d

/-- The value under `CAST … AS` a type of the given affinity; null stays null. -/
def castTo (a : Affinity) (d : Datum) : Datum :=
  match d with
  | .null => .null
  | _ =>
    match a with
    | .blob | .none => .blob d.bytes
    | .text => .text d.bytes
    | .numeric => d.numerify
    | .integer => .integer d.intValue
    | .real => .real d.realValue

end Datum

end RecordMap.Sql
