import RecordMap.Sql.Planner.Basic

/-!
# Logarithmic estimates

The planner weighs plans by estimates kept as ten times their base-two logarithm, rounded to a
whole number: 10 stands for 2, 20 for 4, 33 for 10, 200 for about a million. Multiplying two
estimates is adding their logarithms; `LogEst.add` adds the quantities themselves, to within
the rounding of a small table. Costs and row counts are compared as these whole numbers, so that
two plans whose estimates round alike cost the same.
-/

namespace RecordMap.Sql

/-- Ten times the base-two logarithm of a quantity, rounded. -/
abbrev LogEst := Int

namespace LogEst

/-- Tenths of the logarithm of the numbers eight to fifteen, over that of eight. -/
def fraction : List Int := [0, 2, 3, 5, 6, 7, 8, 9]

/-- The estimate of a count: 0 for 0 and 1; otherwise the count is scaled by a power of two into
eight to fifteen, whose logarithm the table `fraction` gives. -/
def ofNat (x : Nat) : LogEst :=
  if x < 2 then 0
  else if x < 4 then fraction.getD (x * 4 % 8) 0 + 10
  else if x < 8 then fraction.getD (x * 2 % 8) 0 + 20
  else
    let shift := Nat.log2 x - 3
    fraction.getD ((x >>> shift) % 8) 0 + 30 + 10 * (shift : Int)

/-- What to add to the larger of two estimates to estimate their sum, by how much it is larger. -/
def sumStep : List Int :=
  [10, 10, 9, 9, 8, 8, 7, 7, 7, 6, 6, 6, 5, 5, 5, 4, 4, 4, 4, 3, 3, 3, 3, 3, 3, 2, 2, 2, 2, 2, 2, 2]

/-- The estimate of the sum of two quantities. -/
def add (a b : LogEst) : LogEst :=
  let hi := max a b
  let lo := min a b
  if hi > lo + 49 then hi
  else if hi > lo + 31 then hi + 1
  else hi + sumStep.getD (hi - lo).toNat 0

/-- The estimate of the logarithm of a quantity given by its estimate: what a search among that
many rows costs. -/
def log (n : LogEst) : LogEst := if n ≤ 10 then 0 else ofNat n.toNat - 33

end LogEst

/-- The rows a stored table is taken to hold, when nothing is known of its contents: about a
million. -/
def defaultTableRows : LogEst := 200

/-- The estimated width of a table's rows, from the sizes of its columns' values and one more
for a rowid that no column stands for. -/
def Table.rowWidth (t : Table) : LogEst :=
  let w := t.columns.foldl (fun n c => n + c.sizeEstimate) 0 + (if t.rowidAlias.isNone then 1 else 0)
  LogEst.ofNat (w * 4)

end RecordMap.Sql
