import RecordMap.Sql.Token
import RecordMap.Sql.Datum

/-!
# Statements

The abstract syntax of the statements the engine runs. Queries are `select` and `values` cores
joined by `union`, `union all`, `intersect` and `except`, with a `with` clause of common table
expressions in front and ordering and paging after. Expressions hold subqueries, row values,
function calls with `distinct`, `filter` and `over`, and `raise` inside triggers.

Expressions keep the tokens that errors point at: a column reference its name token, a call its
function name token. Parameters are already numbered: `?` takes the next number, `?N` the
number `N`, and a named parameter the number of its first use.
-/

namespace RecordMap.Sql

/-- Prefix operators. -/
inductive UnaryOp where
  | negate
  | plus
  | bitNot
  | not
  deriving Repr, DecidableEq, Inhabited

/-- Infix operators with two operands. -/
inductive BinaryOp where
  | or
  | and
  | eq
  | ne
  | lt
  | le
  | gt
  | ge
  | is
  | isNot
  | bitAnd
  | bitOr
  | shiftLeft
  | shiftRight
  | add
  | sub
  | mul
  | div
  | rem
  | concat
  /-- `->`: a JSON value out of a JSON text. -/
  | extract
  /-- `->>`: an SQL value out of a JSON text. -/
  | extractValue
  deriving Repr, DecidableEq, Inhabited

/-- The pattern operators. -/
inductive PatternOp where
  | like
  | glob
  | regexp
  | match
  deriving Repr, DecidableEq, Inhabited

/-- What a `raise` does inside a trigger. -/
inductive RaiseKind where
  | ignore
  | rollback
  | abort
  | fail
  deriving Repr, DecidableEq, Inhabited

/-- How the rows of a window frame are counted. -/
inductive FrameUnit where
  | rows
  | range
  | groups
  deriving Repr, DecidableEq, Inhabited

/-- Which rows a frame leaves out. -/
inductive FrameExclude where
  | noOthers
  | currentRow
  | group
  | ties
  deriving Repr, DecidableEq, Inhabited

/-- The operator joining two parts of a compound query. -/
inductive CompoundOp where
  | union
  | unionAll
  | intersect
  | except
  deriving Repr, DecidableEq, Inhabited

/-- How a table joins the ones before it. -/
structure JoinKind where
  left : Bool := false
  right : Bool := false
  natural : Bool := false
  cross : Bool := false
  deriving Repr, DecidableEq, Inhabited

/-- An `indexed by` or `not indexed` after a table name. -/
inductive IndexHint where
  | none
  | indexedBy (name : String)
  | notIndexed
  deriving Repr, DecidableEq, Inhabited

mutual

/-- Expressions. -/
inductive Expr where
  | literal (value : Datum)
  /-- An integer literal as written, decimal or hexadecimal. -/
  | integer (text : String) (token : Token)
  /-- A decimal literal with a point or an exponent, as written. -/
  | float (text : String)
  | param (slot : Nat) (token : Token)
  /-- A column: its qualifiers (none, a table, or a schema and a table), its name, and whether it
  was written in double quotes, which lets an unknown name stand for a string. -/
  | column (qualifiers : List String) (name : String) (token : Token) (doubleQuoted : Bool)
  | unary (op : UnaryOp) (operand : Expr)
  | binary (op : BinaryOp) (left right : Expr)
  | pattern (op : PatternOp) (negated : Bool) (subject pattern : Expr) (escape : Option Expr)
  | between (negated : Bool) (subject low high : Expr)
  | inList (negated : Bool) (subject : Expr) (items : List Expr)
  | inSelect (negated : Bool) (subject : Expr) (query : Select)
  /-- `x in t`, against the first column of a table. -/
  | inTable (negated : Bool) (subject : Expr) (table : String) (token : Token)
  | isNull (negated : Bool) (subject : Expr)
  /-- `case [operand] when … then … [else …] end`. -/
  | cases (operand : Option Expr) (arms : List (Expr × Expr)) (otherwise : Option Expr)
  | cast (operand : Expr) (type : String)
  | collate (operand : Expr) (name : String) (token : Token)
  | call (name : String) (token : Token) (distinct : Bool) (args : List Expr) (star : Bool)
      (orderBy : List SortTerm) (filter : Option Expr) (overClause : Option Over)
  | exists (query : Select)
  | subquery (query : Select) (token : Token)
  /-- A parenthesized list of two or more values. -/
  | row (items : List Expr) (token : Token)
  | raise (kind : RaiseKind) (message : Option Expr) (token : Token)

/-- A term of an `order by`. -/
structure SortTerm where
  expr : Expr
  descending : Bool
  /-- `nulls first` (true) or `nulls last` (false) when written. -/
  nullsFirst : Option Bool

/-- A bound of a window frame. -/
inductive FrameBound where
  | unboundedPreceding
  | preceding (e : Expr)
  | currentRow
  | following (e : Expr)
  | unboundedFollowing

/-- A window frame. -/
structure Frame where
  unit : FrameUnit
  start : FrameBound
  finish : FrameBound
  exclude : FrameExclude

/-- A window: an optional window it builds on, its partition, its order and its frame. -/
structure WindowSpec where
  base : Option String
  partition : List Expr
  orderBy : List SortTerm
  frame : Option Frame

/-- The `over` of a window function call. -/
inductive Over where
  | named (name : String) (token : Token)
  | spec (w : WindowSpec)

/-- A result column of a `select`. -/
inductive ResultColumn where
  | all (token : Token)
  | allOf (table : String) (token : Token)
  /-- An expression with its alias and the text it was written as. -/
  | expr (e : Expr) (asName : Option String) (text : String)

/-- What a term of a `from` clause reads. -/
inductive Source where
  | table (schema : Option String) (name : String) (token : Token)
  | call (name : String) (token : Token) (args : List Expr)
  | subquery (query : Select)
  /-- Parenthesized terms joined among themselves. -/
  | nested (terms : List FromTerm)

/-- A term of a `from` clause with how it joins the terms before it. -/
structure FromTerm where
  source : Source
  asName : Option String
  hint : IndexHint
  join : JoinKind
  on : Option Expr
  usingNames : List (String × Token)

/-- The core of a query: a `select` or a `values`. -/
inductive Core where
  | select (distinct : Bool) (columns : List ResultColumn) (source : List FromTerm)
      (filter : Option Expr) (groupBy : List Expr) (having : Option Expr)
      (windows : List (String × WindowSpec)) (token : Token)
  | values (rows : List (List Expr)) (token : Token)

/-- Cores joined by compound operators, left to right. -/
inductive Compound where
  | core (c : Core)
  | join (op : CompoundOp) (left : Compound) (right : Core) (token : Token)

/-- A common table expression. -/
structure Cte where
  name : String
  token : Token
  columns : List String
  materialized : Option Bool
  query : Select

/-- A `with` clause. -/
structure With where
  recursive : Bool
  ctes : List Cte

/-- A query with its common table expressions, ordering and paging. -/
structure Select where
  ctes : Option With
  body : Compound
  orderBy : List SortTerm
  limit : Option Expr
  offset : Option Expr

end

instance : Inhabited Expr := ⟨.literal .null⟩
instance : Inhabited Core := ⟨.values [] default⟩
instance : Inhabited Compound := ⟨.core default⟩
instance : Inhabited Select := ⟨⟨none, default, [], none, none⟩⟩
instance : Inhabited SortTerm := ⟨⟨default, false, none⟩⟩
instance : Inhabited ResultColumn := ⟨.all default⟩
instance : Inhabited FromTerm := ⟨⟨.nested [], none, .none, {}, none, []⟩⟩
instance : Inhabited WindowSpec := ⟨⟨none, [], [], none⟩⟩

/-- What to do when a row breaks a constraint. -/
inductive Conflict where
  | abort
  | fail
  | ignore
  | replace
  | rollback
  /-- No conflict clause was written. -/
  | unset
  deriving Repr, DecidableEq, Inhabited

/-- A column named in an index or a key, or an expression an index is on. -/
structure IndexedColumn where
  expr : Expr
  /-- The name when the term is a plain column. -/
  name : Option String
  token : Token
  collation : Option String
  descending : Bool
  deriving Inhabited

/-- What a foreign key does when its parent row changes. -/
inductive KeyAction where
  | none
  | restrict
  | setNull
  | setDefault
  | cascade
  deriving Repr, DecidableEq, Inhabited

/-- A `references` clause. -/
structure Reference where
  table : String
  columns : List String
  onDelete : KeyAction
  onUpdate : KeyAction
  deferred : Bool
  deriving Repr, Inhabited

/-- A constraint on one column. -/
inductive ColumnConstraint where
  | primaryKey (descending : Bool) (conflict : Conflict) (autoincrement : Bool)
  | notNull (conflict : Conflict)
  | nullable
  | unique (conflict : Conflict)
  /-- A check with the label its failures report: its constraint name, or else its text. -/
  | check (e : Expr) (label : String)
  | default (e : Expr) (text : String)
  | collate (name : String)
  | references (r : Reference)
  | generated (e : Expr) (text : String) (stored : Bool)
  deriving Inhabited

/-- A column definition. -/
structure ColumnDef where
  name : String
  token : Token
  /-- The declared type as written (without quotes), empty when none. -/
  type : String
  constraints : List ColumnConstraint
  deriving Inhabited

/-- A table constraint. -/
inductive TableConstraint where
  | primaryKey (columns : List IndexedColumn) (autoincrement : Bool) (conflict : Conflict)
      (token : Token)
  | unique (columns : List IndexedColumn) (conflict : Conflict)
  | check (e : Expr) (label : String)
  | foreignKey (columns : List String) (r : Reference)
  deriving Inhabited

/-- Where inserted rows come from. -/
inductive InsertSource where
  | query (q : Select)
  | defaults
  deriving Inhabited

/-- A column assignment of an `update`: one column, or several from a row value. -/
structure Assignment where
  columns : List (String × Token)
  value : Expr
  deriving Inhabited

/-- What an `on conflict` clause does. -/
inductive UpsertAction where
  | nothing
  | update (sets : List Assignment) (filter : Option Expr)
  deriving Inhabited

/-- An `on conflict` clause of an `insert`. -/
structure Upsert where
  target : Option (List SortTerm × Option Expr)
  action : UpsertAction
  deriving Inhabited

/-- How `begin` takes its locks. -/
inductive BeginMode where
  | deferred
  | immediate
  | exclusive
  deriving Repr, DecidableEq, Inhabited

/-- A parsed `create table`. -/
structure CreateTable where
  temporary : Bool
  ifNotExists : Bool
  name : String
  token : Token
  columns : List ColumnDef
  constraints : List TableConstraint
  withoutRowid : Bool
  strict : Bool
  /-- The text stored in the schema: `CREATE TABLE ` and the statement from the name on. -/
  sql : String
  /-- The character index in `sql` where a column added later goes: at the comma before the
  table constraints, or else at the closing parenthesis. -/
  columnsEnd : Nat
  deriving Inhabited

/-- A parsed `create index`. -/
structure CreateIndex where
  unique : Bool
  ifNotExists : Bool
  name : String
  token : Token
  table : String
  tableToken : Token
  columns : List IndexedColumn
  filter : Option Expr
  sql : String
  deriving Inhabited

/-- When a trigger fires. -/
inductive TriggerTime where
  | before
  | after
  | insteadOf
  deriving Repr, DecidableEq, Inhabited

/-- What fires a trigger. -/
inductive TriggerEvent where
  | insert
  | delete
  | update (columns : List String)
  deriving Repr, Inhabited

/-- A statement of a trigger body. -/
inductive TriggerStep where
  | insert (conflict : Conflict) (table : String) (columns : Option (List (String × Token)))
      (source : InsertSource) (upsert : List Upsert)
  | update (conflict : Conflict) (table : String) (sets : List Assignment) (filter : Option Expr)
  | delete (table : String) (filter : Option Expr)
  | select (q : Select)
  deriving Inhabited

/-- A parsed `create trigger`. -/
structure CreateTrigger where
  temporary : Bool
  ifNotExists : Bool
  name : String
  token : Token
  time : TriggerTime
  event : TriggerEvent
  table : String
  tableToken : Token
  forEachRow : Bool
  when : Option Expr
  steps : List TriggerStep
  sql : String
  deriving Inhabited

/-- What `drop` removes. -/
inductive ObjectKind where
  | table
  | index
  | view
  | trigger
  deriving Repr, DecidableEq, Inhabited

/-- The change an `alter table` makes. -/
inductive AlterAction where
  | renameTo (name : String)
  | renameColumn (old : String) (token : Token) (new : String)
  | addColumn (column : ColumnDef) (text : String)
  | dropColumn (name : String) (token : Token)
  deriving Inhabited

/-- Statements. -/
inductive Statement where
  | query (q : Select)
  | insert (ctes : Option With) (conflict : Conflict) (table : String) (token : Token)
      (asName : Option String) (columns : Option (List (String × Token))) (source : InsertSource)
      (upsert : List Upsert) (returning : List ResultColumn)
  | update (ctes : Option With) (conflict : Conflict) (table : String) (token : Token)
      (asName : Option String) (hint : IndexHint) (sets : List Assignment) (source : List FromTerm)
      (filter : Option Expr) (returning : List ResultColumn)
  | delete (ctes : Option With) (table : String) (token : Token) (asName : Option String)
      (hint : IndexHint) (filter : Option Expr) (returning : List ResultColumn)
  | createTable (c : CreateTable)
  | createTableAs (temporary ifNotExists : Bool) (name : String) (token : Token) (q : Select)
  | createIndex (c : CreateIndex)
  | createView (temporary ifNotExists : Bool) (name : String) (token : Token) (columns : List String)
      (q : Select) (sql : String)
  | createTrigger (c : CreateTrigger)
  | drop (kind : ObjectKind) (ifExists : Bool) (name : String) (token : Token)
  | alterTable (table : String) (token : Token) (action : AlterAction)
  /-- A `pragma` with its argument as text; a negative number keeps its sign. -/
  | pragma (name : String) (arg : Option String)
  | begin (mode : BeginMode)
  | commit
  | rollback (savepoint : Option String)
  | savepoint (name : String)
  | release (name : String)
  | vacuum
  | analyze
  | reindex
  | explain (queryPlan : Bool) (s : Statement)
  deriving Inhabited

/-- Parsed statement text: the first statement (none for text with no statement in it), the
names of its parameters by number (`none` for a plain `?`), and the character index where the
first statement's text ends, just past its semicolon. -/
structure Parsed where
  statement : Option Statement
  params : List (Option String)
  stop : Nat
  deriving Inhabited

end RecordMap.Sql
