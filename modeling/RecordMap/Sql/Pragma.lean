import RecordMap.Sql.Define

/-!
# Pragmas

The pragmas that read the schema of a store: `table_info` and `table_xinfo` (a table's
columns), `index_list` (a table's indexes, newest first) and `index_info` and `index_xinfo`
(an index's columns); and how a pragma's argument reads as a truth value or a number.

`table_info` leaves generated columns out and numbers the others without them; `table_xinfo`
lists every column with whether it is hidden (2 for a virtual generated column, 3 for a stored
one). A column's place in the primary key is 1 for a key that is the rowid, else its place among
the key index's columns.
-/

namespace RecordMap.Sql

/-- The column names of `table_info`, and of `table_xinfo` when `extended`. -/
def tableInfoNames (extended : Bool) : List String :=
  ["cid", "name", "type", "notnull", "dflt_value", "pk"] ++ (if extended then ["hidden"] else [])

/-- The columns of the schema table as `table_info` shows them. -/
def schemaInfoColumns : List (String × String) :=
  [("type", "TEXT"), ("name", "TEXT"), ("tbl_name", "TEXT"), ("rootpage", "INT"), ("sql", "TEXT")]

/-- The rows of `table_info` (or `table_xinfo`) of a table; none for a table that does not
exist. -/
def tableInfoRows (s : Store) (name : String) (extended : Bool) : List (List Datum) :=
  if isSchemaName name then
    schemaInfoColumns.zipIdx.map fun ((n, ty), k) =>
      [.integer k, Datum.ofString n, Datum.ofString ty, .integer 0, .null, .integer 0] ++
        (if extended then [.integer 0] else [])
  else
    match s.table? name with
    | none => []
    | some t =>
      let keyIndex := t.indexes.find? (·.origin == .primaryKey)
      let (_, rows) := t.columns.toList.zipIdx.foldl (fun (acc : Nat × List (List Datum)) (c, i) =>
        let (hidden, rows) := acc
        let kind : Nat := match c.generated with
          | some (_, true) => 3
          | some (_, false) => 2
          | none => 0
        if kind != 0 && !extended then (hidden + 1, rows)
        else
          let pk : Nat := if !c.primary then 0
            else match keyIndex with
              | none => 1
              | some ix => ((ix.terms.findIdx? (·.column == some i)).map (· + 1)).getD (t.columns.size + 1)
          let dflt : Datum := match c.default, c.generated with
            | some (_, text), none => Datum.ofString text
            | _, _ => .null
          let row : List Datum :=
            [.integer (i - hidden), Datum.ofString c.name, Datum.ofString c.type,
              .integer (if c.notNull.isSome then 1 else 0), dflt, .integer pk] ++
              (if extended then [.integer kind] else [])
          (hidden, rows ++ [row])) (0, [])
      rows

/-- The column names of `index_list`. -/
def indexListNames : List String := ["seq", "name", "unique", "origin", "partial"]

/-- The rows of `index_list` of a table: its indexes, newest first. -/
def indexListRows (s : Store) (name : String) : List (List Datum) :=
  match s.table? name with
  | none => []
  | some t =>
    t.indexes.zipIdx.map fun (i, k) =>
      [.integer k, Datum.ofString i.name, .integer (if i.unique then 1 else 0),
        Datum.ofString i.origin.code, .integer (if i.filter.isSome then 1 else 0)]

/-- The column names of `index_info`, and of `index_xinfo` when `extended`. -/
def indexInfoNames (extended : Bool) : List String :=
  ["seqno", "cid", "name"] ++ (if extended then ["desc", "coll", "key"] else [])

/-- The rows of `index_info` (or `index_xinfo`) of an index, or of the primary key of a table
without rowid of that name: each key column with its place in the table (-2 for an expression),
and for `index_xinfo` its direction, collation and whether it is part of the key, followed by
the rowid or the primary key columns that complete each entry. -/
def indexInfoRows (s : Store) (name : String) (extended : Bool) : List (List Datum) :=
  let found : Option (Table × Index) := match s.index? name with
    | some p => some p
    | none =>
      match s.table? name with
      | some t => if t.withoutRowid then (t.indexes.find? (·.origin == .primaryKey)).map (t, ·) else none
      | none => none
  match found with
  | none => []
  | some (t, ix) =>
    let keyRows := ix.terms.zipIdx.map fun (it, k) =>
      let cid : Int := match it.column with
        | some c => c
        | none => -2
      let nm : Datum := match it.column with
        | some c => Datum.ofString (t.column c).name
        | none => .null
      [.integer k, .integer cid, nm] ++
        (if extended then [.integer (if it.descending then 1 else 0), Datum.ofString it.collation.name,
          .integer 1] else [])
    if !extended then keyRows
    else
      let n := ix.terms.length
      let rest : List (List Datum) :=
        if t.withoutRowid then
          if ix.origin == .primaryKey then []
          else
            (t.primaryKey.filter fun (c, _) => !ix.terms.any (·.column == some c)).zipIdx.map
              fun ((c, d), k) =>
                [.integer (n + k), .integer c, Datum.ofString (t.column c).name,
                  .integer (if d then 1 else 0), Datum.ofString (t.column c).collation.name, .integer 0]
        else [[.integer n, .integer (-1), .null, .integer 0, Datum.ofString "BINARY", .integer 0]]
      keyRows ++ rest

/-- The column names of `foreign_key_list`. -/
def foreignKeyListNames : List String :=
  ["id", "seq", "table", "from", "to", "on_update", "on_delete", "match"]

/-- The name `foreign_key_list` shows for an action. -/
def KeyAction.shown : KeyAction → String
  | .none => "NO ACTION"
  | .restrict => "RESTRICT"
  | .setNull => "SET NULL"
  | .setDefault => "SET DEFAULT"
  | .cascade => "CASCADE"

/-- The rows of `foreign_key_list` of a table: each column of each foreign key, the last declared
key first. -/
def foreignKeyListRows (s : Store) (name : String) : List (List Datum) :=
  match s.table? name with
  | none => []
  | some t =>
    t.foreignKeys.reverse.zipIdx.flatMap fun (fk, id) =>
      fk.columns.zipIdx.map fun (c, j) =>
        let target : Datum := match fk.reference.columns[j]? with
          | some n => Datum.ofString n
          | none => .null
        [.integer id, .integer j, Datum.ofString fk.reference.table, Datum.ofString (t.column c).name,
          target, Datum.ofString fk.reference.onUpdate.shown, Datum.ofString fk.reference.onDelete.shown,
          Datum.ofString "NONE"]

/-- The column names of `foreign_key_check`. -/
def foreignKeyCheckNames : List String := ["table", "rowid", "parent", "fkid"]

/-- The rows of `foreign_key_check`: for each row of the tables checked whose parent is missing,
for each such key, the table, the rowid (null without one), the parent and the key's number.
Without a table named, every table is checked, the newest first. -/
def foreignKeyCheckRows (s : Store) (name : Option String) : Except Fault (List (List Datum)) := do
  let tables ← match name with
    | some n =>
      match s.table? n with
      | some t => pure [t]
      | none => throw (Fault.error s!"no such table: {n}")
    | none => pure s.tables.reverse
  let perTable ← tables.mapM fun t => do
    let keys := t.foreignKeys.reverse.zipIdx
    let located ← keys.mapM fun (fk, id) =>
      match s.table? fk.reference.table with
      | none => pure (fk, id, none, none)
      | some p =>
        match locateParentKey p fk with
        | some pk => pure (fk, id, some p, some pk)
        | none => throw (Fault.keyMismatch t.name fk.reference.table)
    pure (t.rows.flatMap fun r =>
      located.filterMap fun (fk, id, parent, pk) =>
        let vals := fk.columns.map (t.value r)
        let vals := match pk with
          | some pk => (pk.childColumns fk).map (t.value r)
          | none => vals
        let found := match parent, pk with
          | some p, some pk => pk.finds p vals
          | _, _ => false
        if vals.any (·.isNull) || found then none
        else
          some [Datum.ofString t.name, if t.withoutRowid then .null else .integer r.rowid,
            Datum.ofString fk.reference.table, .integer id])
  pure perTable.flatten

/-- The truth a pragma's argument sets: a number is true when not zero, and `on`, `yes` and
`true` are true; anything else is false. -/
def pragmaTruth (arg : String) : Bool :=
  match arg.toList with
  | c :: _ =>
    if c.isDigit then pragmaNumber arg != 0
    else ["on", "yes", "true", "full", "extra"].contains arg.toLower
  | [] => false
where
  /-- The number at the start of a text of digits. -/
  pragmaNumber (s : String) : Nat := (s.toList.takeWhile Char.isDigit).foldl (fun n d => 10 * n + (d.toNat - 48)) 0

/-- The 32-bit integer a pragma's argument sets: an optional sign and the digits that follow,
0 when it does not fit or starts with no digit. -/
def pragmaInt (arg : String) : Int :=
  let (neg, rest) := match arg.toList with
    | '-' :: r => (true, r)
    | '+' :: r => (false, r)
    | r => (false, r)
  let digits := (rest.dropWhile (· == '0')).takeWhile Char.isDigit
  match rest with
  | c :: _ =>
    if !c.isDigit || digits.length > 10 then 0
    else
      let v : Int := digits.foldl (fun n d => 10 * n + (d.toNat - 48 : Nat)) 0
      if v - (if neg then 1 else 0) > 2147483647 then 0 else if neg then -v else v
  | [] => 0

end RecordMap.Sql
