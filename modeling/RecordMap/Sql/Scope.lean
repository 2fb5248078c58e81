import RecordMap.Sql.Planner

/-!
# Names in scope

Compiling a statement looks its names up in scopes: each query level has the sources of its
`from` clause, and, for some of its clauses, the aliases of its result columns. A column name
is looked for in the innermost scope first and then outwards; found in an outer scope, it makes
the query correlated.

Compiling an expression also learns its `Info`: its affinity and collation (which decide how it
compares), whether it is a row value, whether it is a column (which names a result column after
it), and whether it holds an aggregate or a window function.

The rules for a comparison's affinity and collation are the engine's:

* the affinity is numeric when either side is a numeric column, none when both sides are other
  columns, else the one column's (`Affinity.comparison`);
* the collation is the left side's explicit `collate`, else the right side's, else the left
  side's column collation, else the right side's, else bytewise (`Trait.comparer`).
-/

namespace RecordMap.Sql

open RecordMap.Numeral

/-- What an expression brings to a comparison: its affinity, its collation, and whether that
collation was written with `collate`. -/
structure Trait where
  affinity : Affinity := .none
  collation : Option Collation := none
  explicit : Bool := false
  deriving Repr, Inhabited

/-- The collation two sides of a comparison are compared under. -/
def Trait.collationWith (l r : Trait) : Collation :=
  if l.explicit then l.collation.getD .binary
  else if r.explicit then r.collation.getD .binary
  else (l.collation.orElse fun _ => r.collation).getD .binary

/-- The comparer of two sides of a comparison. -/
def Trait.comparer (l r : Trait) : Comparer :=
  ⟨Affinity.comparison l.affinity r.affinity, Trait.collationWith l r⟩

/-- What compiling an expression learns about it. -/
structure Info where
  trait : Trait := {}
  /-- The traits of the places of a row value. -/
  places : List Trait := []
  width : Nat := 1
  /-- The name of the column the expression is, when it is one. -/
  columnName : Option String := none
  /-- The first aggregate call it holds: the function's name as written and its offset. -/
  aggregate : Option (String × Nat) := none
  /-- The first window function it holds. -/
  window : Option String := none
  /-- Which kinds of values it may take: 1 numbers, 2 text, 4 bytes. -/
  kinds : Nat := 1
  deriving Inhabited

/-- The trait of a place of a row value; a single value has one place. -/
def Info.place (i : Info) (k : Nat) : Trait := if i.width ≤ 1 then i.trait else i.places.getD k {}

/-- The kinds of value an expression of an affinity may take. -/
def kindsOfAffinity (a : Affinity) : Nat :=
  if a.isNumeric then 5 else if a == .text then 6 else 7

/-- Info that only carries the collation news of some parts: a part written with `collate`
makes the whole explicit, with the collation of the first such part. -/
def Info.combine (parts : List Info) : Info :=
  match parts.find? (·.trait.explicit) with
  | some p => { trait := { collation := p.trait.collation, explicit := true },
                aggregate := (parts.findSome? (·.aggregate)), window := parts.findSome? (·.window) }
  | none => { aggregate := parts.findSome? (·.aggregate), window := parts.findSome? (·.window) }

/-- A column of a source, as names see it. -/
structure NamedColumn where
  name : String
  affinity : Affinity
  collation : Collation
  deriving Repr, Inhabited

/-- A source of a query, as names see it: the names that qualify it, its columns, its rowid
(none when names may not read one, else the column that is the rowid, if any), and the names of
its `using` clause, which an unqualified name does not find in it when a source before it has
them. -/
structure ScopeSource where
  names : List String
  columns : List NamedColumn
  rowid : Option (Option Nat)
  usingNames : List String
  /-- Whether it is the right side of a right join, where a `using` name reads it rather than
  the left side. -/
  rightJoin : Bool
  /-- Whether only a name qualified by one of its names finds it, and only when no other source
  of the scope has the column: the row an upsert refused, as `excluded`. -/
  qualifiedOnly : Bool := false
  deriving Inhabited

/-- A result column alias that the other clauses of a query may use. -/
structure ResultAlias where
  name : String
  term : Term
  info : Info
  deriving Inhabited

/-- Whether an aggregate may stand where an expression is compiled: yes, no (the
compilation fails), or only in appearance (it compiles, and the statement fails once its code
is generated). -/
inductive AggregateUse where
  | allowed
  | refused
  | late
  deriving Repr, DecidableEq, Inhabited

/-- A query level's names: its sources, the result aliases its clause may use, and whether
aggregates and window functions may stand there. -/
structure Scope where
  sources : List ScopeSource
  aliases : List ResultAlias
  aggregates : AggregateUse
  windows : Bool
  deriving Inhabited

/-- A common table expression in scope: its name, its column names, its query, and how many
entries of the list of common table expressions its query sees. -/
structure CteDef where
  name : String
  columns : List String
  query : Select
  visible : Nat
  deriving Inhabited

/-- What compiling sees around an expression. -/
structure Ctx where
  store : Store
  scopes : List Scope
  ctes : List CteDef
  /-- The common table expressions being compiled, each with the message that a reference to it
  from inside fails with. -/
  expanding : List (String × String)
  /-- The recursive common table expressions whose working row a name in `from` reads: name,
  id and columns. -/
  working : List (String × Nat × List NamedColumn)
  /-- The named windows of the `window` clause of the core being compiled. -/
  windowDefs : List (String × WindowSpec) := []
  /-- Whether a trigger program is being compiled, where `raise` may stand. -/
  trigger : Bool := false
  deriving Inhabited

/-- What compiling a `select` core collects: its aggregate calls, its windows and window calls,
the next id of a recursive common table expression, and the first failure that only the
generation of code would find. -/
structure ResolveState where
  aggregates : Array AggregateCall := #[]
  windows : Array WindowDef := #[]
  windowCalls : Array WindowCall := #[]
  nextId : Nat := 0
  late : Option Fault := none
  deriving Inhabited

/-- Compilation: a program that may fail, collecting a core's calls. -/
abbrev Resolve := StateT ResolveState (Except Fault)

/-- Records a failure that the generation of code would find, if none was found before. -/
def lateFault (f : Fault) : Resolve Unit :=
  modify fun s => if s.late.isSome then s else { s with late := some f }

/-- Whether a name is one of the names of the rowid. -/
def isRowidName (name : String) : Bool :=
  let n := name.toLower
  n == "rowid" || n == "oid" || n == "_rowid_"

/-- Whether a name is that of the schema table. -/
def isSchemaName (name : String) : Bool :=
  sameName name "sqlite_master" || sameName name "sqlite_schema"

/-- The columns of the schema table. -/
def schemaColumns : List NamedColumn :=
  [⟨"type", .text, .binary⟩, ⟨"name", .text, .binary⟩, ⟨"tbl_name", .text, .binary⟩,
   ⟨"rootpage", .integer, .binary⟩, ⟨"sql", .text, .binary⟩]

/-- A stored table as a source, under an alias if it has one. -/
def tableScope (t : Table) (asName : Option String) : ScopeSource :=
  { names := [asName.getD t.name]
    columns := t.columns.toList.map fun c => ⟨c.name, c.affinity, c.collation⟩
    rowid := if t.withoutRowid then none else some t.rowidAlias
    usingNames := []
    rightJoin := false }

/-- The value of an integer literal, negated when it stands under a minus sign, with the text
of the failure when it is a hex literal too big for 64 bits. A decimal literal too big for 64
bits is a double, except that the smallest integer may be written negated. -/
def integerLiteral (text : String) (negated : Bool) : Datum × Option String :=
  match text.toList with
  | '0' :: x :: hex =>
    if x == 'x' || x == 'X' then
      let digits := hex.dropWhile (· == '0')
      let n := digits.foldl (fun (a : Nat) c => 16 * a + (hexDigitValue? c).getD 0) 0
      let bits : Int := if n ≥ Nat.pow 2 63 then (n : Int) - Nat.pow 2 64 else n
      if digits.length > 16 || (negated && bits == minI64) then
        (.null, some ("hex literal too big: " ++ (if negated then "-" else "") ++ text))
      else (.integer (if negated then -bits else bits), none)
    else decimal
  | _ => decimal
where
  decimal : Datum × Option String :=
    let n : Nat := text.toList.foldl (fun (a : Nat) d => 10 * a + (d.toNat - 48)) 0
    if negated then
      if n ≤ Nat.pow 2 63 then (.integer (-(n : Int)), none)
      else (.real (-(readReal (bytesOf text)).value), none)
    else if n < Nat.pow 2 63 then (.integer n, none)
    else (.real (readReal (bytesOf text)).value, none)

/-- The value of a decimal literal with a point or an exponent. -/
def floatLiteral (text : String) (negated : Bool) : Datum :=
  let x := (readReal (bytesOf text)).value
  .real (if negated then -x else x)

/-- The kinds of value a literal takes. -/
def Datum.kinds : Datum → Nat
  | .null => 0
  | .text _ => 2
  | .blob _ => 4
  | _ => 1

/-- The text naming a column in an error: with its qualifiers when written with them. -/
def columnText (quals : List String) (name : String) : String :=
  ".".intercalate (quals ++ [name])

/-- How a source's column is read: the rowid when it is the column that is the rowid. -/
def ScopeSource.refOf (s : ScopeSource) (k : Nat) : Option Nat :=
  match s.rowid with
  | some (some r) => if r == k then none else some k
  | _ => some k

/-- The term and info of a column of a source at some depth. -/
def ScopeSource.columnTerm (s : ScopeSource) (depth i k : Nat) : Term × Info :=
  let c := s.columns.getD k default
  match s.refOf k with
  | none =>
    (.column ⟨depth, i, none⟩,
      { trait := { affinity := .integer }, columnName := some c.name, kinds := 5 })
  | some k =>
    (.column ⟨depth, i, some k⟩,
      { trait := { affinity := c.affinity, collation := some c.collation }, columnName := some c.name,
        kinds := kindsOfAffinity c.affinity })

/-- The term and info of the rowid of a source at some depth. -/
def ScopeSource.rowidTerm (s : ScopeSource) (depth i : Nat) : Term × Info :=
  let name := match s.rowid with
    | some (some r) => (s.columns.getD r default).name
    | _ => "rowid"
  (.column ⟨depth, i, none⟩, { trait := { affinity := .integer }, columnName := some name, kinds := 5 })

/-- Whether a source goes by a qualifier. -/
def ScopeSource.answers (s : ScopeSource) (qual : String) : Bool := s.names.any (sameName · qual)

/-- What looking a column name up in one scope finds: a column, an ambiguity, or nothing. -/
inductive ScopeHit where
  | found (t : Term) (i : Info)
  | ambiguous
  | missing
  deriving Inhabited

/-- Looks a column name up among the sources of one scope, at a depth. A name found in two
sources is ambiguous, unless the later source names it in its `using` clause: then the earlier
one is meant, or, for the right side of a right join, the later one. A rowid name that no source
has as a column is the rowid of the one source that has a rowid. -/
def lookupInSources (sources : List ScopeSource) (depth : Nat) (qual : Option String)
    (name : String) : ScopeHit :=
  match lookupAmong (sources.zipIdx.filter fun (s, _) => !s.qualifiedOnly) depth qual name with
  | .missing =>
    match qual with
    | some q => lookupAmong (sources.zipIdx.filter fun (s, _) => s.qualifiedOnly && s.answers q) depth qual name
    | none => .missing
  | hit => hit
where
  lookupAmong (sources : List (ScopeSource × Nat)) (depth : Nat) (qual : Option String)
      (name : String) : ScopeHit :=
    let indexed := sources.filter fun (s, _) =>
      match qual with
      | some q => s.answers q
      | none => true
    let step (acc : Nat × Option (Term × Info) × Nat) (p : ScopeSource × Nat) :
        Nat × Option (Term × Info) × Nat :=
      let (cnt, hit, withRowid) := acc
      let (s, i) := p
      match s.columns.findIdx? (fun c => sameName c.name name) with
      | some k =>
        if cnt > 0 then
          if !(s.usingNames.any (sameName · name)) then (cnt + 1, hit, withRowid)
          else if !s.rightJoin then (cnt, hit, withRowid)
          else (1, some (s.columnTerm depth i k), withRowid)
        else (1, some (s.columnTerm depth i k), withRowid)
      | none => (cnt, hit, if cnt == 0 && s.rowid.isSome then withRowid + 1 else withRowid)
    let (cnt, hit, withRowid) := indexed.foldl step (0, none, 0)
    if cnt == 1 then
      match hit with
      | some (t, i) => .found t i
      | none => .missing
    else if cnt > 1 then .ambiguous
    else if isRowidName name && withRowid ≥ 1 then
      if withRowid > 1 then .ambiguous
      else
        match indexed.find? (fun (s, _) => s.rowid.isSome) with
        | some (s, i) => let (t, info) := s.rowidTerm depth i; .found t info
        | none => .missing
    else .missing

/-- The name a result column goes by in the statement's output: its alias, else the name of the
column it is, else its text as written, else `columnN`. -/
def displayName (k : Nat) (asName : Option String) (info : Info) (text : String) : String :=
  match asName with
  | some a => a
  | none =>
    match info.columnName with
    | some c => c
    | none => if text.isEmpty then s!"column{k + 1}" else text

/-- Whether a name is `true` or `false`, which a column of a subquery may not be called. -/
def isTruthName (n : String) : Bool := sameName n "true" || sameName n "false"

/-- Drops a `:digits` suffix from a name. -/
def dropCounter (n : String) : String :=
  let cs := n.toList
  let digits := (cs.reverse.takeWhile Char.isDigit).length
  let rest := cs.take (cs.length - digits)
  if digits < cs.length && rest.getLast? == some ':' && rest.length > 1 then
    String.ofList (rest.take (rest.length - 1))
  else n

/-- Makes a name differ from the names taken before it by a `:N` suffix. -/
def uniqueName (taken : List String) (n : String) : String :=
  go (taken.length + 1) 0 n
where
  go : Nat → Nat → String → String
    | 0, _, n => n
    | fuel + 1, cnt, n =>
      if taken.any (sameName · n) then go fuel (cnt + 1) (dropCounter n ++ ":" ++ toString (cnt + 1))
      else n

/-- The names the columns of a subquery, view or common table expression go by as a source:
as in the output, but `true` and `false` become `columnN`, and a repeated name gets a `:N`
suffix. -/
def sourceNames (names : List String) : List String :=
  (names.zipIdx.foldl (fun (acc : List String) (n, k) =>
    let n := if isTruthName n then s!"column{k + 1}" else n
    acc ++ [uniqueName acc n]) [])

end RecordMap.Sql
