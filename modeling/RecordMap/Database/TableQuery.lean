import RecordMap.Database.Command
import RecordMap.Query.Compile

/-!
# Table queries

A `TableQuery` reads the records of one type. Its state collects a predicate (filters are
joined with `and`), orderings by mapped members, a limit and an offset, whether rows are to be
read afresh on every pass, and a join with another query, which no statement can express.

The statement is `select <list> from "<table>"`, then ` where <predicate>`, ` order by <columns>`
with `desc` for a descending one, and ` limit <n>` with ` offset <m>`; an offset without a limit
is written ` limit -1 offset <m>`. `nextTake` moves the offset on by the limit, when there is
one. Terminals run the statement: all records, their count, the first record, or a delete of the
matching rows, which allows no limit or offset and needs a predicate.
-/

namespace RecordMap

open RecordMap.Text

/-- One ordering: a storage column and its direction. -/
structure Ordering where
  column : String
  ascending : Bool
  deriving Repr, Inhabited

/-- Structural text of an ordering. -/
def Ordering.debugText (o : Ordering) : String :=
  "Ordering \x7b column_name: " ++ debugQuote o.column ++ ", ascending: " ++
    (if o.ascending then "true" else "false") ++ " \x7d"

/-- What a table query has collected: predicate, orderings, limit, offset, a join (the outer
state as it was, the inner query's state, and the two keys), and whether rows are read afresh
on every pass. -/
structure QueryState where
  predicate : Option Expr := none
  orderings : Option (List Ordering) := none
  limit : Option Nat := none
  offset : Option Nat := none
  join : Option (QueryState × QueryState × Expr × Expr) := none
  deferred : Bool := false
  deriving Inhabited

/-- Structural text of a query state. -/
def QueryState.debugText : QueryState → String
  | ⟨predicate, orderings, limit, offset, join, deferred⟩ =>
    let joinText := match join with
      | some (outer, inner, outerKey, innerKey) =>
        "Some(JoinDescriptor \x7b outer: " ++ outer.debugText ++ ", inner: " ++ inner.debugText ++
          ", outer_key: " ++ outerKey.debugText ++ ", inner_key: " ++ innerKey.debugText ++ " \x7d)"
      | none => "None"
    "QueryState \x7b predicate: " ++ optionText Expr.debugText predicate ++ ", orderings: " ++
      optionText (fun os => listText (os.map Ordering.debugText)) orderings ++ ", limit: " ++
      optionText toString limit ++ ", offset: " ++ optionText toString offset ++ ", join: " ++
      joinText ++ ", deferred: " ++ (if deferred then "true" else "false") ++ " \x7d"

/-- The largest count a limit or offset may hold. -/
def maxCount : Nat := Nat.pow 2 64 - 1

/-- A query over the records of one type. -/
structure TableQuery where
  recordType : RecordType
  mapping : Mapping
  state : QueryState := {}
  deriving Inhabited

namespace TableQuery

/-- Keeps only the records a predicate holds for. -/
def filter (q : TableQuery) (p : Expr) : TableQuery :=
  let predicate := match q.state.predicate with
    | some e => Expr.binary .and e p
    | none => p
  { q with state := { q.state with predicate := some predicate } }

/-- Adds an ordering by a member of the record. -/
def addOrdering (q : TableQuery) (selector : Expr) (ascending : Bool) : Outcome TableQuery := do
  let column ← resolveOrdering q.mapping selector
  let orderings := q.state.orderings.getD [] ++ [⟨column, ascending⟩]
  pure { q with state := { q.state with orderings := some orderings } }

/-- Keeps at most `n` records. -/
def take (q : TableQuery) (n : Nat) : TableQuery := { q with state := { q.state with limit := some n } }

/-- Skips the first `n` records. -/
def skip (q : TableQuery) (n : Nat) : TableQuery := { q with state := { q.state with offset := some n } }

/-- Moves on to the next page: the offset grows by the limit, when there is one. -/
def nextTake (q : TableQuery) : TableQuery :=
  match q.state.limit with
  | some l =>
    let offset := match q.state.offset with
      | some o => min (o + l) maxCount
      | none => l
    { q with state := { q.state with offset := some offset } }
  | none => q

/-- Reads rows afresh on every pass. -/
def deferred (q : TableQuery) : TableQuery := { q with state := { q.state with deferred := true } }

/-- Joins another query on two keys. -/
def join (q : TableQuery) (inner : TableQuery) (outerKey innerKey : Expr) : TableQuery :=
  { q with state := { q.state with join := some (q.state, inner.state, outerKey, innerKey) } }

/-- The ` order by` clause of a list of orderings; no orderings give none. -/
def orderByClause : Option (List Ordering) → String
  | some os@(_ :: _) =>
    let term (o : Ordering) := quoteIdentifier o.column ++ (if o.ascending then "" else " desc")
    " order by " ++ ", ".intercalate (os.map term)
  | _ => ""

/-- The ` limit` clause of a limit and an offset; an offset alone takes the limit `-1`. -/
def limitClause : Option Nat → Option Nat → String
  | some l, some o => " limit " ++ toString l ++ " offset " ++ toString o
  | some l, none => " limit " ++ toString l
  | none, some o => " limit -1 offset " ++ toString o
  | none, none => ""

/-- The statement of the query with a select list. -/
def generate (q : TableQuery) (selectList : String) : Outcome Command := do
  if q.state.join.isSome then throw (.unsupportedExpression "joins are not supported")
  let sql := "select " ++ selectList ++ " from " ++ quoteIdentifier q.mapping.tableName
  let (sql, args) ← match q.state.predicate with
    | some p => do
      let (compiled, args) ← compile q.mapping p []
      pure (sql ++ " where " ++ compiled.sql, args)
    | none => pure (sql, [])
  let sql := sql ++ orderByClause q.state.orderings ++ limitClause q.state.limit q.state.offset
  pure (args.foldl Command.bindHost ⟨sql, []⟩)

/-- The statement deleting the rows the query's predicate holds for; a query with a limit or an
offset, or with no predicate, deletes nothing. -/
def deleteCommand (q : TableQuery) : Outcome Command := do
  if q.state.limit.isSome || q.state.offset.isSome then
    throw (.unsupportedExpression "cannot delete with limits or offsets")
  let some p := q.state.predicate
    | throw (.unsupportedExpression "no condition specified for delete")
  let (compiled, args) ← compile q.mapping p []
  let sql := "delete from " ++ quoteIdentifier q.mapping.tableName ++ " where " ++ compiled.sql
  pure (args.foldl Command.bindHost ⟨sql, []⟩)

/-- Structural text of a query. -/
def debugText (q : TableQuery) : String :=
  "TableQuery \x7b table: " ++ debugQuote q.mapping.tableName ++ ", state: " ++ q.state.debugText ++ " \x7d"

end TableQuery

/-- The field type of a count. -/
def countField : FieldType := ⟨.int .int64, false⟩

namespace Db

/-- The query over every record of a type. -/
def table (c : Nat) (rt : RecordType) : Db TableQuery := do
  pure ⟨rt, ← mapping c rt, {}⟩

/-- Every record the query selects. -/
def toList (c : Nat) (q : TableQuery) : Db (List (List Value)) := do
  executeQuery c q.recordType (← ofOutcome (q.generate "*"))

/-- The number of records the query selects. -/
def count (c : Nat) (q : TableQuery) : Db Int := do
  match ← executeScalar c (← ofOutcome (q.generate "count(*)")) countField with
  | .int n => pure n
  | _ => pure 0

/-- The first record the query selects, if any. -/
def firstOrDefault (c : Nat) (q : TableQuery) : Db (Option (List Value)) := do
  pure (← toList c (q.take 1)).head?

/-- The first record the query selects; there must be one. -/
def first (c : Nat) (q : TableQuery) : Db (List Value) := do
  match ← firstOrDefault c q with
  | some r => pure r
  | none => throw (.notFound ("query on " ++ q.mapping.tableName ++ " returned no rows"))

/-- The record at a position of the query's records. -/
def elementAt (c : Nat) (q : TableQuery) (index : Nat) : Db (List Value) :=
  first c ((q.skip index).take 1)

/-- Deletes the rows the query's predicate holds for: the rows deleted. -/
def deleteMatching (c : Nat) (q : TableQuery) : Db Nat := do
  executeNonQuery c (← ofOutcome q.deleteCommand)

/-- The rows of a query for passes: read once, or a deferred query read afresh each pass. -/
inductive QueryRows where
  | eager (records : List (List Value))
  | deferred (q : Deferred)

/-- The rows of a query, for passes over them. -/
def rows (c : Nat) (q : TableQuery) : Db QueryRows := do
  let cmd ← ofOutcome (q.generate "*")
  if q.state.deferred then pure (.deferred (← executeDeferred c q.recordType cmd))
  else pure (.eager (← executeQuery c q.recordType cmd))

/-- One pass over the rows, handing out at most `take` items: a deferred query runs again from its
first row, while records read once are handed out once, so a pass over them goes on where the
one before it stopped. -/
def QueryRows.pass (c : Nat) : QueryRows → Nat → Db (Pass × QueryRows)
  | .eager records, take =>
    pure (⟨(records.take take).map .ok, decide (records.length < take)⟩, .eager (records.drop take))
  | .deferred q, take => do
    let p ← runPass c q take
    pure (p, .deferred q)

/-- Passes one after another over the rows, each handing out at most its own number of items. -/
def QueryRows.passes (c : Nat) : QueryRows → List Nat → Db (List Pass)
  | _, [] => pure []
  | rows, take :: takes => do
    let (p, rest) ← rows.pass c take
    pure (p :: (← rest.passes c takes))

end Db

end RecordMap
