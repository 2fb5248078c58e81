import RecordMap.Sql.Parse.Expr

/-!
# Parsing statements

`parse` reads the first statement of a text: a query, `insert`, `update`, `delete`, the
`create`, `drop` and `alter` statements of the schema, `pragma`, and the transaction
statements. Empty statements (lone semicolons) in front are skipped; the statement ends at a
semicolon or at the end of the text, and anything else there is a syntax error.

A `create` keeps the text the schema records: its keywords and the statement from the object's
name on. A check constraint keeps the label its failures report, the constraint name when one
is given and otherwise the text between its parentheses.
-/

namespace RecordMap.Sql

namespace Parser

/-- A term of an index or key as an indexed column: the collation and the plain column name it
names, if it names one. -/
def indexedOfSort (s : SortTerm) : IndexedColumn :=
  let (e, collation) := match s.expr with
    | .collate inner c _ => (inner, some c)
    | e => (e, none)
  let (name, token) := match e with
    | .column [] n t _ => (some n, t)
    | .column _ _ t _ => (none, t)
    | _ => (none, default)
  ⟨e, name, token, collation, s.descending⟩

/-- A term of `order by` as an indexed column, with the tokens it was written with. -/
def indexedTerms (fuel : Nat) : Parser (List IndexedColumn) := do
  let terms ← sortList fuel
  pure (terms.map indexedOfSort)

/-- A foreign key action. -/
def keyAction : Parser KeyAction := do
  if ← acceptWord "SET" then
    if ← acceptWord "NULL" then pure .setNull
    else
      expectWord "DEFAULT"
      pure .setDefault
  else if ← acceptWord "CASCADE" then pure .cascade
  else if ← acceptWord "RESTRICT" then pure .restrict
  else
    expectWord "NO"
    expectWord "ACTION"
    pure .none

/-- A `deferrable` clause; whether the key is checked at commit. -/
def deferClause : Parser (Option Bool) := do
  let t ← current
  if t.isWord "DEFERRABLE" || (t.isWord "NOT" && (← ahead 1).isWord "DEFERRABLE") then
    let negated ← acceptWord "NOT"
    expectWord "DEFERRABLE"
    let initially ← if ← acceptWord "INITIALLY" then
        if ← acceptWord "DEFERRED" then pure true
        else
          expectWord "IMMEDIATE"
          pure false
      else pure false
    pure (some (!negated && initially))
  else pure none

/-- The arguments after the parent table of a `references` clause. -/
def referenceArgs : Nat → Reference → Parser Reference
  | 0, r => pure r
  | n + 1, r => do
    let t ← current
    if t.isWord "ON" then
      advance
      if ← acceptWord "DELETE" then
        let a ← keyAction
        referenceArgs n { r with onDelete := a }
      else
        expectWord "UPDATE"
        let a ← keyAction
        referenceArgs n { r with onUpdate := a }
    else if t.isWord "MATCH" then
      advance
      let _ ← nm
      referenceArgs n r
    else pure r

/-- A `references` clause after its keyword. -/
def referenceClause (fuel : Nat) : Parser Reference := do
  let (table, _) ← nm
  let columns ← if ← acceptSymbol "(" then do
      let cols ← eidList fuel
      let _ ← expectSymbol ")"
      pure cols
    else pure []
  let r ← referenceArgs fuel ⟨table, columns, .none, .none, false⟩
  match ← deferClause with
  | some d => pure { r with deferred := d }
  | none => pure r

/-- The value of a `default` clause and the text it was written as. -/
def defaultValue (fuel : Nat) : Parser (Expr × String) := do
  let t ← current
  if t.isSymbol "(" then
    advance
    let e ← expr fuel
    let close ← expectSymbol ")"
    pure (e, trimBlanks (← between t.stop close.index))
  else if t.isSymbol "+" || t.isSymbol "-" then
    advance
    let e ← literalTerm
    let stop ← previousStop
    let text ← between t.index stop
    pure (if t.isSymbol "-" then .unary .negate e else .unary .plus e, text)
  else
    match t.kind with
    | .word w =>
      let u := w.toUpper
      if u == "NULL" || u == "CURRENT_TIME" || u == "CURRENT_DATE" || u == "CURRENT_TIMESTAMP" then
        let e ← literalTerm
        pure (e, t.text)
      else
        match t.id? with
        | some n =>
          advance
          let e := if u == "TRUE" then Expr.literal (.integer 1)
            else if u == "FALSE" then Expr.literal (.integer 0)
            else Expr.literal (Datum.ofString n)
          pure (e, t.text)
        | none => failHere
    | .quoted n _ =>
      advance
      pure (.literal (Datum.ofString n), t.text)
    | _ =>
      let e ← literalTerm
      pure (e, t.text)
where
  /-- A literal term: a number, string, blob, `null` or a current time keyword. -/
  literalTerm : Parser Expr := do
    let t ← current
    match t.kind with
    | .integer text =>
      advance
      pure (.integer text t)
    | .float text =>
      advance
      pure (.float text)
    | .string s =>
      advance
      pure (.literal (Datum.ofString s))
    | .blob b =>
      advance
      pure (.literal (.blob b))
    | .word w =>
      let u := w.toUpper
      if u == "NULL" then
        advance
        pure (.literal .null)
      else if u == "CURRENT_TIME" || u == "CURRENT_DATE" || u == "CURRENT_TIMESTAMP" then
        advance
        pure (.call w.toLower t false [] false [] none none)
      else failHere
    | _ => failHere

/-- The label of a check: its constraint name, or the text between its parentheses. -/
def checkLabel (name : Option String) (open_ close : Token) : Parser String := do
  match name with
  | some n => pure n
  | none => pure (dequote (trimBlanks (← between open_.stop close.index)))

/-- The constraints of a column definition; `name` is the constraint name in force. -/
def columnConstraints (fuel : Nat) : Nat → Option String → Parser (List ColumnConstraint)
  | 0, _ => pure []
  | n + 1, name => do
    let t ← current
    if t.isWord "CONSTRAINT" then
      advance
      let (c, _) ← nm
      columnConstraints fuel n (some c)
    else if t.isWord "DEFAULT" then
      advance
      let (e, text) ← defaultValue fuel
      let rest ← columnConstraints fuel n name
      pure (.default e text :: rest)
    else if t.isWord "NULL" then
      advance
      let _ ← onConflict
      let rest ← columnConstraints fuel n name
      pure (.nullable :: rest)
    else if t.isWord "NOT" && (← ahead 1).isWord "NULL" then
      advance
      advance
      let c ← onConflict
      let rest ← columnConstraints fuel n name
      pure (.notNull c :: rest)
    else if t.isWord "PRIMARY" then
      advance
      expectWord "KEY"
      let descending ← sortOrder
      let conflict ← onConflict
      let autoincrement ← acceptWord "AUTOINCREMENT"
      let rest ← columnConstraints fuel n name
      pure (.primaryKey descending conflict autoincrement :: rest)
    else if t.isWord "UNIQUE" then
      advance
      let c ← onConflict
      let rest ← columnConstraints fuel n name
      pure (.unique c :: rest)
    else if t.isWord "CHECK" then
      advance
      let open_ ← expectSymbol "("
      let e ← expr fuel
      let close ← expectSymbol ")"
      let label ← checkLabel name open_ close
      let rest ← columnConstraints fuel n name
      pure (.check e label :: rest)
    else if t.isWord "REFERENCES" then
      advance
      let r ← referenceClause fuel
      let rest ← columnConstraints fuel n name
      pure (.references r :: rest)
    else if t.isWord "DEFERRABLE" || (t.isWord "NOT" && (← ahead 1).isWord "DEFERRABLE") then
      let _ ← deferClause
      columnConstraints fuel n name
    else if t.isWord "COLLATE" then
      advance
      let (c, _) ← ids
      let rest ← columnConstraints fuel n name
      pure (.collate c :: rest)
    else if t.isWord "GENERATED" || t.isWord "AS" then
      if t.isWord "GENERATED" then
        advance
        expectWord "ALWAYS"
      expectWord "AS"
      let open_ ← expectSymbol "("
      let e ← expr fuel
      let close ← expectSymbol ")"
      let text ← between open_.stop close.index
      let stored ← match (← current).kind with
        | .word w =>
          if w.toUpper == "STORED" then
            advance
            pure true
          else if w.toUpper == "VIRTUAL" then
            advance
            pure false
          else pure false
        | _ => pure false
      let rest ← columnConstraints fuel n name
      pure (.generated e (trimBlanks text) stored :: rest)
    else pure []

/-- A column definition: name, type and constraints. -/
def columnDef (fuel : Nat) : Parser ColumnDef := do
  let (name, tok) ← nm
  let type ← typeName
  let constraints ← columnConstraints fuel fuel none
  pure ⟨name, tok, type, constraints⟩

/-- Whether a token starts a table constraint. -/
def startsTableConstraint (t : Token) : Bool :=
  t.isWord "CONSTRAINT" || t.isWord "PRIMARY" || t.isWord "UNIQUE" || t.isWord "CHECK" ||
    t.isWord "FOREIGN"

/-- The table constraints of a `create table`, separated by optional commas; `name` is the
constraint name in force. -/
def tableConstraints (fuel : Nat) : Nat → Option String → Parser (List TableConstraint)
  | 0, _ => tooDeep
  | n + 1, name => do
    let t ← current
    if t.isWord "CONSTRAINT" then
      advance
      let (c, _) ← nm
      tableConstraints fuel n (some c)
    else if t.isWord "PRIMARY" then
      advance
      expectWord "KEY"
      let _ ← expectSymbol "("
      let cols ← indexedTerms fuel
      let autoincrement ← acceptWord "AUTOINCREMENT"
      let _ ← expectSymbol ")"
      let c ← onConflict
      let rest ← more n name
      pure (.primaryKey cols autoincrement c t :: rest)
    else if t.isWord "UNIQUE" then
      advance
      let _ ← expectSymbol "("
      let cols ← indexedTerms fuel
      let _ ← expectSymbol ")"
      let c ← onConflict
      let rest ← more n name
      pure (.unique cols c :: rest)
    else if t.isWord "CHECK" then
      advance
      let open_ ← expectSymbol "("
      let e ← expr fuel
      let close ← expectSymbol ")"
      let label ← checkLabel name open_ close
      let _ ← onConflict
      let rest ← more n name
      pure (.check e label :: rest)
    else if t.isWord "FOREIGN" then
      advance
      expectWord "KEY"
      let _ ← expectSymbol "("
      let cols ← eidList fuel
      let _ ← expectSymbol ")"
      expectWord "REFERENCES"
      let r ← referenceClause fuel
      let rest ← more n name
      pure (.foreignKey cols r :: rest)
    else failHere
where
  /-- What follows a table constraint: the closing parenthesis, or another constraint. -/
  more (n : Nat) (name : Option String) : Parser (List TableConstraint) := do
    let t ← current
    if t.isSymbol ")" then pure []
    else if ← acceptSymbol "," then tableConstraints fuel n none
    else tableConstraints fuel n name

/-- The column definitions of a `create table`, and whether table constraints follow. -/
def columnDefs (fuel : Nat) : Nat → Parser (List ColumnDef × Bool)
  | 0 => tooDeep
  | n + 1 => do
    let c ← columnDef fuel
    if (← current).isSymbol "," then
      if startsTableConstraint (← ahead 1) then
        advance
        pure ([c], true)
      else
        advance
        let (cs, cons) ← columnDefs fuel n
        pure (c :: cs, cons)
    else pure ([c], false)

/-- The options after the columns of a `create table`: `without rowid` and `strict`. -/
def tableOptions : Nat → Bool × Bool → Parser (Bool × Bool)
  | 0, acc => pure acc
  | n + 1, (withoutRowid, strict) => do
    let t ← current
    let acc ←
      if t.isWord "WITHOUT" then
        advance
        let (opt, _) ← nm
        if opt.toUpper != "ROWID" then throw (Fault.error s!"unknown table option: {opt}")
        pure (true, strict)
      else
        match t.nm? with
        | some opt =>
          advance
          if opt.toUpper != "STRICT" then throw (Fault.error s!"unknown table option: {opt}")
          pure (withoutRowid, true)
        | none => failHere
    if ← acceptSymbol "," then tableOptions n acc else pure acc

/-- A `create table` after its keywords. -/
def createTable (fuel : Nat) (temporary : Bool) : Parser Statement := do
  let ifNot ← ifNotExists
  let (_, name, tok) ← qualifiedName
  if ← acceptWord "AS" then
    let q ← select fuel
    pure (.createTableAs temporary ifNot name tok q)
  else
    let _ ← expectSymbol "("
    let (columns, hasConstraints) ← columnDefs fuel fuel
    let endTok ← if hasConstraints then previous else current
    let constraints ← if hasConstraints then tableConstraints fuel fuel none else pure []
    let close ← expectSymbol ")"
    let t ← current
    let hasOptions := !(t.isSymbol ";" || t.kind == .finish)
    let (withoutRowid, strict) ← if hasOptions then tableOptions fuel (false, false)
      else pure (false, false)
    let stop ← if hasOptions then pure (← current).index else pure close.stop
    let body ← between tok.index stop
    pure (.createTable ⟨temporary, ifNot, name, tok, columns, constraints, withoutRowid, strict,
      "CREATE TABLE " ++ body, 13 + (endTok.index - tok.index)⟩)

/-- A `create index` after its keywords. -/
def createIndex (fuel : Nat) (unique : Bool) : Parser Statement := do
  let ifNot ← ifNotExists
  let (_, name, tok) ← qualifiedName
  expectWord "ON"
  let (table, tableTok) ← nm
  let _ ← expectSymbol "("
  let columns ← indexedTerms fuel
  let _ ← expectSymbol ")"
  let filter ← if ← acceptWord "WHERE" then some <$> expr fuel else pure none
  let body ← between tok.index (← current).index
  let head := if unique then "CREATE UNIQUE INDEX " else "CREATE INDEX "
  pure (.createIndex ⟨unique, ifNot, name, tok, table, tableTok, columns, filter, head ++ body⟩)

/-- A `create view` after its keywords. -/
def createView (fuel : Nat) (temporary : Bool) : Parser Statement := do
  let ifNot ← ifNotExists
  let (_, name, tok) ← qualifiedName
  let columns ← if ← acceptSymbol "(" then do
      let cols ← eidList fuel
      let _ ← expectSymbol ")"
      pure cols
    else pure []
  expectWord "AS"
  let q ← select fuel
  let body ← between tok.index (← current).index
  pure (.createView temporary ifNot name tok columns q ("CREATE VIEW " ++ trimBlanks body))

/-- The assignments of an `update` or an upsert, at least one. -/
def assignments (fuel : Nat) : Nat → Parser (List Assignment)
  | 0 => tooDeep
  | n + 1 => do
    let columns ← if ← acceptSymbol "(" then do
        let names ← nameList fuel
        let _ ← expectSymbol ")"
        pure names
      else do
        let c ← nm
        pure [c]
    let _ ← expectSymbol "="
    let e ← expr fuel
    let a : Assignment := ⟨columns, e⟩
    if ← acceptSymbol "," then
      let rest ← assignments fuel n
      pure (a :: rest)
    else pure [a]

/-- An optional `returning` clause. -/
def returningClause (fuel : Nat) : Parser (List ResultColumn) := do
  if ← acceptWord "RETURNING" then resultColumns fuel else pure []

/-- The `on conflict` clauses of an `insert`. -/
def upserts (fuel : Nat) : Nat → Parser (List Upsert)
  | 0 => pure []
  | n + 1 => do
    if (← current).isWord "ON" && (← ahead 1).isWord "CONFLICT" then
      advance
      advance
      let target ← if ← acceptSymbol "(" then do
          let terms ← sortList fuel
          let _ ← expectSymbol ")"
          let filter ← if ← acceptWord "WHERE" then some <$> expr fuel else pure none
          pure (some (terms, filter))
        else pure none
      expectWord "DO"
      let action ← if ← acceptWord "NOTHING" then pure UpsertAction.nothing
        else do
          expectWord "UPDATE"
          expectWord "SET"
          let sets ← assignments fuel fuel
          let filter ← if ← acceptWord "WHERE" then some <$> expr fuel else pure none
          pure (UpsertAction.update sets filter)
      let u : Upsert := ⟨target, action⟩
      if target.isNone then pure [u]
      else
        let rest ← upserts fuel n
        pure (u :: rest)
    else pure []

/-- A table name with an alias written with `as`. -/
def aliasedName : Parser (String × Token × Option String) := do
  let (_, name, tok) ← qualifiedName
  let asName ← if ← acceptWord "AS" then some <$> (Prod.fst <$> nm) else pure none
  pure (name, tok, asName)

/-- An optional `indexed by` or `not indexed`. -/
def indexHint : Parser IndexHint := do
  if (← current).isWord "INDEXED" then
    advance
    expectWord "BY"
    let (i, _) ← nm
    pure (.indexedBy i)
  else if (← current).isWord "NOT" && (← ahead 1).isWord "INDEXED" then
    advance
    advance
    pure .notIndexed
  else pure .none

/-- An `insert` after its `insert [or …]` or `replace`. -/
def insertStatement (fuel : Nat) (ctes : Option With) (conflict : Conflict) : Parser Statement := do
  expectWord "INTO"
  let (table, tok, asName) ← aliasedName
  let columns ← if ← acceptSymbol "(" then do
      let names ← nameList fuel
      let _ ← expectSymbol ")"
      pure (some names)
    else pure none
  if (← current).isWord "DEFAULT" then
    advance
    expectWord "VALUES"
    let returning ← returningClause fuel
    pure (.insert ctes conflict table tok asName columns .defaults [] returning)
  else
    let q ← select fuel
    let ups ← upserts fuel fuel
    let returning ← returningClause fuel
    pure (.insert ctes conflict table tok asName columns (.query q) ups returning)

/-- An `update` after its `update [or …]`. -/
def updateStatement (fuel : Nat) (ctes : Option With) (conflict : Conflict) : Parser Statement := do
  let (table, tok, asName) ← aliasedName
  let hint ← indexHint
  expectWord "SET"
  let sets ← assignments fuel fuel
  let source ← if ← acceptWord "FROM" then fromTerms fuel true else pure []
  let filter ← if ← acceptWord "WHERE" then some <$> expr fuel else pure none
  let returning ← returningClause fuel
  pure (.update ctes conflict table tok asName hint sets source filter returning)

/-- A `delete` after its `delete from`. -/
def deleteStatement (fuel : Nat) (ctes : Option With) : Parser Statement := do
  let (table, tok, asName) ← aliasedName
  let hint ← indexHint
  let filter ← if ← acceptWord "WHERE" then some <$> expr fuel else pure none
  let returning ← returningClause fuel
  pure (.delete ctes table tok asName hint filter returning)

/-- A statement of a trigger body. -/
def triggerStep (fuel : Nat) : Parser TriggerStep := do
  let t ← current
  if t.isWord "UPDATE" then
    advance
    let c ← orConflict
    let (table, _) ← nm
    expectWord "SET"
    let sets ← assignments fuel fuel
    let filter ← if ← acceptWord "WHERE" then some <$> expr fuel else pure none
    pure (.update c table sets filter)
  else if t.isWord "DELETE" then
    advance
    expectWord "FROM"
    let (table, _) ← nm
    let filter ← if ← acceptWord "WHERE" then some <$> expr fuel else pure none
    pure (.delete table filter)
  else if t.isWord "INSERT" || t.isWord "REPLACE" then
    advance
    let c ← if t.isWord "REPLACE" then pure Conflict.replace else orConflict
    expectWord "INTO"
    let (table, _) ← nm
    let columns ← if ← acceptSymbol "(" then do
        let names ← nameList fuel
        let _ ← expectSymbol ")"
        pure (some names)
      else pure none
    if (← current).isWord "DEFAULT" then
      advance
      expectWord "VALUES"
      pure (.insert c table columns .defaults [])
    else
      let q ← select fuel
      let ups ← upserts fuel fuel
      pure (.insert c table columns (.query q) ups)
  else
    let q ← select fuel
    pure (.select q)

/-- The statements of a trigger body up to its `end`. -/
def triggerSteps (fuel : Nat) : Nat → Parser (List TriggerStep)
  | 0 => tooDeep
  | n + 1 => do
    let s ← triggerStep fuel
    let _ ← expectSymbol ";"
    if (← current).isWord "END" then pure [s]
    else
      let rest ← triggerSteps fuel n
      pure (s :: rest)

/-- A `create trigger` after its keywords. -/
def createTrigger (fuel : Nat) (temporary : Bool) : Parser Statement := do
  let ifNot ← ifNotExists
  let (_, name, tok) ← qualifiedName
  let time ← if ← acceptWord "BEFORE" then pure TriggerTime.before
    else if ← acceptWord "AFTER" then pure TriggerTime.after
    else if ← acceptWord "INSTEAD" then do
      expectWord "OF"
      pure TriggerTime.insteadOf
    else pure TriggerTime.before
  let event ← if ← acceptWord "DELETE" then pure TriggerEvent.delete
    else if ← acceptWord "INSERT" then pure TriggerEvent.insert
    else do
      expectWord "UPDATE"
      if ← acceptWord "OF" then
        let cols ← nameList fuel
        pure (TriggerEvent.update (cols.map (·.1)))
      else pure (TriggerEvent.update [])
  expectWord "ON"
  let (_, table, tableTok) ← qualifiedName
  let forEachRow ← if ← acceptWord "FOR" then do
      expectWord "EACH"
      expectWord "ROW"
      pure true
    else pure false
  let when ← if ← acceptWord "WHEN" then some <$> expr fuel else pure none
  expectWord "BEGIN"
  let steps ← triggerSteps fuel fuel
  let finish ← current
  expectWord "END"
  let body ← between tok.index finish.stop
  pure (.createTrigger ⟨temporary, ifNot, name, tok, time, event, table, tableTok, forEachRow, when,
    steps, "CREATE TRIGGER " ++ body⟩)

/-- The optional `transaction [name]` of a transaction statement. -/
def transactionWord : Parser Unit := do
  if ← acceptWord "TRANSACTION" then
    match (← current).nm? with
    | some _ => advance
    | none => pure ()

/-- The argument of a `pragma`, as text. -/
def pragmaValue : Parser String := do
  let t ← current
  if t.isSymbol "-" || t.isSymbol "+" then
    advance
    let u ← current
    match u.kind with
    | .integer _ | .float _ =>
      advance
      pure (if t.isSymbol "-" then "-" ++ u.text else u.text)
    | _ => failHere
  else
    match t.kind with
    | .integer _ | .float _ =>
      advance
      pure t.text
    | _ =>
      match t.nm? with
      | some s =>
        advance
        pure s
      | none =>
        if t.isWord "ON" || t.isWord "DELETE" || t.isWord "DEFAULT" then
          advance
          pure t.text
        else failHere

/-- A statement after its `with` clause, if it has one. -/
def statementBody (fuel : Nat) (ctes : Option With) : Parser Statement := do
  let t ← current
  match t.upper? with
  | some "SELECT" | some "VALUES" =>
    let q ← select fuel
    pure (.query { q with ctes := ctes })
  | some "INSERT" =>
    advance
    let c ← orConflict
    insertStatement fuel ctes c
  | some "REPLACE" =>
    advance
    insertStatement fuel ctes .replace
  | some "UPDATE" =>
    advance
    let c ← orConflict
    updateStatement fuel ctes c
  | some "DELETE" =>
    advance
    expectWord "FROM"
    deleteStatement fuel ctes
  | _ => failHere

/-- A statement. -/
def statement (fuel : Nat) : Parser Statement := do
  let t ← current
  match t.upper? with
  | some "WITH" =>
    let w ← withClause fuel
    statementBody fuel (some w)
  | some "SELECT" | some "VALUES" | some "INSERT" | some "REPLACE" | some "UPDATE"
  | some "DELETE" => statementBody fuel none
  | some "CREATE" =>
    advance
    let temporary ← if ← acceptWord "TEMP" then pure true else acceptWord "TEMPORARY"
    if ← acceptWord "TABLE" then createTable fuel temporary
    else if ← acceptWord "VIEW" then createView fuel temporary
    else if ← acceptWord "TRIGGER" then createTrigger fuel temporary
    else if temporary then failHere
    else if ← acceptWord "UNIQUE" then
      expectWord "INDEX"
      createIndex fuel true
    else if ← acceptWord "INDEX" then createIndex fuel false
    else failHere
  | some "DROP" =>
    advance
    let kind ← if ← acceptWord "TABLE" then pure ObjectKind.table
      else if ← acceptWord "INDEX" then pure ObjectKind.index
      else if ← acceptWord "VIEW" then pure ObjectKind.view
      else do
        expectWord "TRIGGER"
        pure ObjectKind.trigger
    let ifEx ← ifExists
    let (_, name, tok) ← qualifiedName
    pure (.drop kind ifEx name tok)
  | some "ALTER" =>
    advance
    expectWord "TABLE"
    let (_, table, tok) ← qualifiedName
    if ← acceptWord "ADD" then
      let _ ← acceptWord "COLUMN"
      let start := (← current).index
      let c ← columnDef fuel
      let text ← between start (← current).index
      pure (.alterTable table tok (.addColumn c (trimBlanks text)))
    else if ← acceptWord "DROP" then
      let _ ← acceptWord "COLUMN"
      let (c, ctok) ← nm
      pure (.alterTable table tok (.dropColumn c ctok))
    else
      expectWord "RENAME"
      if ← acceptWord "TO" then
        let (n, _) ← nm
        pure (.alterTable table tok (.renameTo n))
      else
        let _ ← acceptWord "COLUMN"
        let (old, otok) ← nm
        expectWord "TO"
        let (new, _) ← nm
        pure (.alterTable table tok (.renameColumn old otok new))
  | some "PRAGMA" =>
    advance
    let (first, _) ← nm
    let name ← if ← acceptSymbol "." then Prod.fst <$> nm else pure first
    if ← acceptSymbol "=" then
      let v ← pragmaValue
      pure (.pragma name (some v))
    else if ← acceptSymbol "(" then
      let v ← pragmaValue
      let _ ← expectSymbol ")"
      pure (.pragma name (some v))
    else pure (.pragma name none)
  | some "BEGIN" =>
    advance
    let mode ← if ← acceptWord "IMMEDIATE" then pure BeginMode.immediate
      else if ← acceptWord "EXCLUSIVE" then pure BeginMode.exclusive
      else do
        let _ ← acceptWord "DEFERRED"
        pure BeginMode.deferred
    transactionWord
    pure (.begin mode)
  | some "COMMIT" | some "END" =>
    advance
    transactionWord
    pure .commit
  | some "ROLLBACK" =>
    advance
    transactionWord
    if ← acceptWord "TO" then
      let _ ← acceptWord "SAVEPOINT"
      let (n, _) ← nm
      pure (.rollback (some n))
    else pure (.rollback none)
  | some "SAVEPOINT" =>
    advance
    let (n, _) ← nm
    pure (.savepoint n)
  | some "RELEASE" =>
    advance
    let _ ← acceptWord "SAVEPOINT"
    let (n, _) ← nm
    pure (.release n)
  | some "VACUUM" =>
    advance
    if (← current).nm?.isSome then advance
    pure .vacuum
  | some "ANALYZE" =>
    advance
    if (← current).nm?.isSome then
      let _ ← qualifiedName
    pure .analyze
  | some "REINDEX" =>
    advance
    if (← current).nm?.isSome then
      let _ ← qualifiedName
    pure .reindex
  | some "EXPLAIN" =>
    advance
    let queryPlan ← if (← current).isWord "QUERY" then do
        advance
        expectWord "PLAN"
        pure true
      else pure false
    let s ← statementOf fuel
    pure (.explain queryPlan s)
  | _ => failHere
where
  /-- The statement an `explain` describes. -/
  statementOf (fuel : Nat) : Parser Statement := do
    let t ← current
    if t.isWord "WITH" then
      let w ← withClause fuel
      statementBody fuel (some w)
    else statementBody fuel none

/-- Skips empty statements. -/
def skipSemicolons : Nat → Parser Unit
  | 0 => pure ()
  | n + 1 => do
    if ← acceptSymbol ";" then skipSemicolons n else pure ()

end Parser

open RecordMap.Sql.Parser in
/-- Parses the first statement of a text. -/
def parse (text : String) : Except Fault Parsed :=
  let tokens := (tokenize text).toArray
  let src : Lexed := ⟨tokens, text.toList.toArray⟩
  let fuel := 16 * tokens.size + 64
  let whole := text.length
  let first : Parser (Option Statement × Nat) := do
    skipSemicolons tokens.size
    let t ← current
    if t.kind == .finish then pure (none, whole)
    else
      let s ← statement fuel
      let u ← current
      if u.isSymbol ";" then pure (some s, u.stop)
      else if u.kind == .finish then pure (some s, whole)
      else failHere
  match (first.run src).run ⟨0, #[]⟩ with
  | .ok ((s, stop), c) => .ok ⟨s, c.params.toList, stop⟩
  | .error f => .error f

end RecordMap.Sql
