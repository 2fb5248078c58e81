import RecordMap.Sql.Scalar

/-!
# Aggregate functions

`aggregateValue f coll rows` is the value of an aggregate over the argument values of the rows
of a group, in the order the rows were read.

* `count(x)` counts the rows where `x` is not null, `count(*)` all rows.
* `sum` adds integers exactly while it can; the first value that is not an integer, or an
  integer overflow, switches it to doubles added with a running error term (Kahan, Babuška and
  Neumaier), and an overflow that no later double cancels is an error. `total` is the same sum
  as a double, 0.0 for no rows; `avg` is the sum divided by the count.
* `min` and `max` keep the first least or greatest value under the collation, nulls left out.
* `group_concat` joins the texts of the non-null values, each after the first preceded by the
  separator of its own row (a comma by default).

`extremeSteps` tells, for `min` and `max`, on which rows the value was taken: the rows from which
a query's other columns are read.
-/

namespace RecordMap.Sql

open RecordMap.Numeral

/-- A sum in progress. -/
structure SumState where
  /-- The double sum and its error term, once the sum is approximate. -/
  sum : Float := 0.0
  err : Float := 0.0
  /-- The exact integer sum while it is exact. -/
  isum : Int := 0
  count : Nat := 0
  approx : Bool := false
  overflow : Bool := false
  deriving Inhabited

namespace SumState

/-- Adds a double with its rounding error kept. -/
def addReal (s : SumState) (r : Float) : SumState :=
  let t := s.sum + r
  let err := if s.sum.abs > r.abs then s.err + ((s.sum - t) + r) else s.err + ((r - t) + s.sum)
  { s with sum := t, err }

/-- Adds an integer to the double sum, in two parts when it is too large for a double. -/
def addIntApprox (s : SumState) (i : Int) : SumState :=
  if i ≤ -4503599627370496 || i ≥ 4503599627370496 then
    let small := i.tmod 16384
    (s.addReal (floatOfInt (i - small))).addReal (floatOfInt small)
  else s.addReal (floatOfInt i)

/-- Starts the double sum from the exact integer sum. -/
def startApprox (s : SumState) : SumState :=
  let i := s.isum
  if i ≤ -4503599627370496 || i ≥ 4503599627370496 then
    let small := i.tmod 16384
    { s with sum := floatOfInt (i - small), err := floatOfInt small, approx := true }
  else { s with sum := floatOfInt i, err := 0.0, approx := true }

/-- The value a summed argument counts as: text that reads wholly as a number is that number. -/
def operand (d : Datum) : Datum :=
  match d with
  | .text b => (Datum.numberOfWholeText b false).getD d
  | _ => d

/-- Adds one argument value. -/
def add (s : SumState) (d : Datum) : SumState :=
  match operand d with
  | .null => s
  | v =>
    let s := { s with count := s.count + 1 }
    if !s.approx then
      match v with
      | .integer i =>
        if fitsI64 (s.isum + i) then { s with isum := s.isum + i }
        else ({ s with overflow := true }.startApprox).addIntApprox i
      | other => s.startApprox.addReal other.realValue
    else
      match v with
      | .integer i => s.addIntApprox i
      | other => { s with overflow := false }.addReal other.realValue

/-- Whether a double is infinite or not a number. -/
def isOverflow (x : Float) : Bool := !isFinite x

/-- The double value of the sum. -/
def real (s : SumState) : Float :=
  if s.approx then (if isOverflow s.err then s.sum else s.sum + s.err) else floatOfInt s.isum

end SumState

/-- Which rows a `min` (or, `isMax`, a `max`) took its value from: a row counts when its value
became the best, or when it was null and no value had been seen. -/
def extremeSteps (isMax : Bool) (coll : Collation) (values : List Datum) : List Bool :=
  (values.foldl (fun (acc : Option Datum × List Bool) v =>
    let (best, out) := acc
    match v, best with
    | .null, some _ => (best, out ++ [false])
    | .null, none => (best, out ++ [true])
    | _, none => (some v, out ++ [true])
    | _, some b =>
      let o := compareDatum coll b v
      if (isMax && o == .lt) || (!isMax && o == .gt) then (some v, out ++ [true])
      else (best, out ++ [false])) (none, [])).2

/-- The best value of a `min` or `max`. -/
def extremeOf (isMax : Bool) (coll : Collation) (values : List Datum) : Datum :=
  (values.foldl (fun (best : Option Datum) v =>
    match v, best with
    | .null, _ => best
    | _, none => some v
    | _, some b =>
      let o := compareDatum coll b v
      if (isMax && o == .lt) || (!isMax && o == .gt) then some v else best) none).getD .null

/-- The joined text of a `group_concat`, none when every value was null. -/
def concatenated (rows : List (List Datum)) : Option Bytes :=
  rows.foldl (fun (acc : Option Bytes) row =>
    match row.headD .null with
    | .null => acc
    | v =>
      let text := v.bytes
      match acc with
      | none => some text
      | some soFar =>
        let sep : Bytes := match row with
          | [_] => [44]
          | _ :: s :: _ => (s.text?).getD []
          | [] => []
        some (soFar ++ sep ++ text)) none

/-- The value of an aggregate over the argument values of a group's rows. -/
def aggregateValue (f : AggregateFn) (coll : Collation) (rows : List (List Datum)) :
    Except Fault Datum :=
  let firsts := rows.map (·.headD .null)
  match f with
  | .countAll => pure (.integer rows.length)
  | .count => pure (.integer (firsts.filter (!·.isNull)).length)
  | .sum =>
    let s := firsts.foldl SumState.add {}
    if s.count == 0 then pure .null
    else if s.approx then
      if s.overflow then throw (Fault.error "integer overflow") else pure (Datum.ofReal s.real)
    else pure (.integer s.isum)
  | .total =>
    let s := firsts.foldl SumState.add {}
    pure (Datum.ofReal s.real)
  | .avg =>
    let s := firsts.foldl SumState.add {}
    if s.count == 0 then pure .null else pure (Datum.ofReal (s.real / floatOfInt s.count))
  | .min => pure (extremeOf false coll firsts)
  | .max => pure (extremeOf true coll firsts)
  | .groupConcat =>
    match concatenated rows with
    | some b => pure (.text b)
    | none => pure .null
  | .jsonGroupArray binary => (jsonGroupArray binary (firsts.map (·, false))).map (·.1)
  | .jsonGroupObject binary =>
    (jsonGroupObject binary (rows.map fun r => ((r.headD .null, false), (r.getD 1 .null, false)))).map (·.1)

end RecordMap.Sql
