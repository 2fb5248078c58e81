import RecordMap.Sql.Parse.Cursor

/-!
# Parsing expressions and queries

Expressions are read with the operator precedences of the engine, lowest first: `or`; `and`;
prefix `not`; `=`, `!=`, `is`, `like`, `glob`, `between`, `in`, `isnull`, `notnull`; `<`, `<=`,
`>`, `>=`; `escape`; `&`, `|`, `<<`, `>>`; `+`, `-`; `*`, `/`, `%`; `||`, `->`, `->>`; `collate`;
prefix `-`, `+`, `~`. All binary operators group to the left.

Queries and expressions are read by one family of functions, since a query may hold
expressions and an expression subqueries. Every descent spends one unit of a depth bound, so
parsing always ends.

Some mistakes are found as soon as the parser has read the part they are in: an unknown join
type, an `on` or `using` on the first table, an `order by` or `limit` on a query before a
compound operator, and a window frame that ends before it starts.
-/

namespace RecordMap.Sql

/-- The rank of a frame bound in the order they may follow one another. -/
def FrameBound.rank : FrameBound → Nat
  | .unboundedPreceding => 0
  | .preceding _ => 1
  | .currentRow => 2
  | .following _ => 3
  | .unboundedFollowing => 4

/-- The name of a compound operator, as error messages write it. -/
def CompoundOp.text : CompoundOp → String
  | .union => "UNION"
  | .unionAll => "UNION ALL"
  | .intersect => "INTERSECT"
  | .except => "EXCEPT"

namespace Parser

/-- The pattern operator a keyword names. -/
def patternOp? (t : Token) : Option PatternOp :=
  match t.upper? with
  | some "LIKE" => some .like
  | some "GLOB" => some .glob
  | some "REGEXP" => some .regexp
  | some "MATCH" => some .match
  | _ => none

/-- The operators of the comparison level. -/
def comparisonOp (t : Token) : Option BinaryOp :=
  if t.isSymbol "<" then some .lt
  else if t.isSymbol "<=" then some .le
  else if t.isSymbol ">" then some .gt
  else if t.isSymbol ">=" then some .ge
  else none

/-- The operators of the bitwise level. -/
def bitwiseOp (t : Token) : Option BinaryOp :=
  if t.isSymbol "&" then some .bitAnd
  else if t.isSymbol "|" then some .bitOr
  else if t.isSymbol "<<" then some .shiftLeft
  else if t.isSymbol ">>" then some .shiftRight
  else none

/-- The operators of the additive level. -/
def additiveOp (t : Token) : Option BinaryOp :=
  if t.isSymbol "+" then some .add else if t.isSymbol "-" then some .sub else none

/-- The operators of the multiplicative level. -/
def multiplicativeOp (t : Token) : Option BinaryOp :=
  if t.isSymbol "*" then some .mul
  else if t.isSymbol "/" then some .div
  else if t.isSymbol "%" then some .rem
  else none

/-- The operators of the concatenation level. -/
def concatOp (t : Token) : Option BinaryOp :=
  if t.isSymbol "||" then some .concat
  else if t.isSymbol "->" then some .extract
  else if t.isSymbol "->>" then some .extractValue
  else none

/-- Continues a left-associative level: while an operator of the level is at the cursor, takes
it and a right operand. -/
def leftAssoc (ops : Token → Option BinaryOp) (operand : Parser Expr) : Nat → Expr → Parser Expr
  | 0, _ => tooDeep
  | n + 1, l => do
    match ops (← current) with
    | some op =>
      advance
      let r ← operand
      leftAssoc ops operand n (.binary op l r)
    | none => pure l

/-- Whether a token starts a query. -/
def startsQuery (t : Token) : Bool := t.isWord "SELECT" || t.isWord "VALUES" || t.isWord "WITH"

/-- Takes a compound operator if one is at the cursor. -/
def compoundOp? : Parser (Option (CompoundOp × Token)) := do
  let t ← current
  if t.isWord "UNION" then
    advance
    if ← acceptWord "ALL" then pure (some (.unionAll, t)) else pure (some (.union, t))
  else if t.isWord "INTERSECT" then
    advance
    pure (some (.intersect, t))
  else if t.isWord "EXCEPT" then
    advance
    pure (some (.except, t))
  else pure none

/-- The join a sequence of join words names, or the error they make. -/
def joinOfWords (words : List Token) : Except Fault JoinKind :=
  let codes := words.map fun t =>
    match t.text.toUpper with
    | "NATURAL" => some (true, false, false, false, false, false)
    | "LEFT" => some (false, true, false, true, false, false)
    | "OUTER" => some (false, false, false, true, false, false)
    | "RIGHT" => some (false, false, true, true, false, false)
    | "FULL" => some (false, true, true, true, false, false)
    | "INNER" => some (false, false, false, false, true, false)
    | "CROSS" => some (false, false, false, false, true, true)
    | _ => none
  let bad := codes.any (·.isNone)
  let pick (f : Bool × Bool × Bool × Bool × Bool × Bool → Bool) : Bool :=
    codes.any fun c => (c.map f).getD false
  let natural := pick (·.1)
  let left := pick (·.2.1)
  let right := pick (·.2.2.1)
  let outer := pick (·.2.2.2.1)
  let inner := pick (·.2.2.2.2.1)
  let cross := pick (·.2.2.2.2.2)
  if bad || (inner && outer) || (outer && !left && !right) then
    let text := " ".intercalate (words.map (·.text))
    let offset := (words.head?.map (·.offset)).getD 0
    .error (Fault.pointing s!"unknown join type: {text}" offset)
  else .ok { left, right, natural, cross }

/-- Takes a join operator if one is at the cursor: the join it names. -/
def joinOperator? : Parser (Option JoinKind) := do
  if ← acceptSymbol "," then pure (some {})
  else if ← acceptWord "JOIN" then pure (some {})
  else
    let t ← current
    match t.upper? with
    | some w =>
      if joinWords.contains w then
        advance
        let u ← current
        if u.isWord "JOIN" then
          advance
          match joinOfWords [t] with
          | .ok k => pure (some k)
          | .error f => throw f
        else
          match u.nm? with
          | none => failHere
          | some _ =>
            advance
            let v ← current
            if v.isWord "JOIN" then
              advance
              match joinOfWords [t, u] with
              | .ok k => pure (some k)
              | .error f => throw f
            else
              match v.nm? with
              | none => failHere
              | some _ =>
                advance
                expectWord "JOIN"
                match joinOfWords [t, u, v] with
                | .ok k => pure (some k)
                | .error f => throw f
      else pure none
    | none => pure none

/-- Takes `asc` or `desc`: whether it is descending. -/
def sortOrder : Parser Bool := do
  if ← acceptWord "DESC" then pure true
  else
    let _ ← acceptWord "ASC"
    pure false

/-- Takes `nulls first` or `nulls last` when written. -/
def nullsOrder : Parser (Option Bool) := do
  if ← acceptWord "NULLS" then
    if ← acceptWord "FIRST" then pure (some true)
    else
      expectWord "LAST"
      pure (some false)
  else pure none

/-- Takes an `exclude` clause of a frame. -/
def frameExclude : Parser FrameExclude := do
  if ← acceptWord "EXCLUDE" then
    if ← acceptWord "NO" then
      expectWord "OTHERS"
      pure .noOthers
    else if ← acceptWord "CURRENT" then
      expectWord "ROW"
      pure .currentRow
    else if ← acceptWord "GROUP" then pure .group
    else
      expectWord "TIES"
      pure .ties
  else pure .noOthers

/-- Whether the frame's ends come in an order the engine supports. -/
def frameSupported (start finish : FrameBound) : Bool :=
  !((start.rank == 2 && finish.rank == 1) || (start.rank == 3 && (finish.rank == 1 || finish.rank == 2)))

mutual

/-- An expression. -/
def expr : Nat → Parser Expr
  | 0 => tooDeep
  | n + 1 => do
    let l ← conjunction n
    leftAssoc (fun t => if t.isWord "OR" then some .or else none) (conjunction n) n l

/-- An `and` level expression. -/
def conjunction : Nat → Parser Expr
  | 0 => tooDeep
  | n + 1 => do
    let l ← negation n
    leftAssoc (fun t => if t.isWord "AND" then some .and else none) (negation n) n l

/-- A prefix `not` level expression. -/
def negation : Nat → Parser Expr
  | 0 => tooDeep
  | n + 1 => do
    if (← current).isWord "NOT" then
      advance
      let e ← negation n
      pure (.unary .not e)
    else equality n

/-- An equality level expression. -/
def equality : Nat → Parser Expr
  | 0 => tooDeep
  | n + 1 => do
    let l ← comparison n
    equalityRest n l

/-- Continues an equality level expression. -/
def equalityRest : Nat → Expr → Parser Expr
  | 0, _ => tooDeep
  | n + 1, l => do
    let t ← current
    if t.isSymbol "=" || t.isSymbol "==" then
      advance
      let r ← comparison n
      equalityRest n (.binary .eq l r)
    else if t.isSymbol "!=" || t.isSymbol "<>" then
      advance
      let r ← comparison n
      equalityRest n (.binary .ne l r)
    else if t.isWord "IS" then
      advance
      let negated ← acceptWord "NOT"
      let distinct ← acceptWord "DISTINCT"
      if distinct then expectWord "FROM"
      let r ← comparison n
      equalityRest n (.binary (if negated == distinct then .is else .isNot) l r)
    else if t.isWord "ISNULL" then
      advance
      equalityRest n (.isNull false l)
    else if t.isWord "NOTNULL" then
      advance
      equalityRest n (.isNull true l)
    else if t.isWord "NOT" then
      let u ← ahead 1
      if u.isWord "NULL" then
        advance
        advance
        equalityRest n (.isNull true l)
      else if u.isWord "BETWEEN" then
        advance
        advance
        betweenTail n true l
      else if u.isWord "IN" then
        advance
        advance
        inTail n true l
      else
        match patternOp? u with
        | some op =>
          advance
          advance
          patternTail n op true l
        | none => pure l
    else if t.isWord "BETWEEN" then
      advance
      betweenTail n false l
    else if t.isWord "IN" then
      advance
      inTail n false l
    else
      match patternOp? t with
      | some op =>
        advance
        patternTail n op false l
      | none => pure l

/-- The bounds of a `between` and what follows. -/
def betweenTail : Nat → Bool → Expr → Parser Expr
  | 0, _, _ => tooDeep
  | n + 1, negated, l => do
    let lo ← comparison n
    expectWord "AND"
    let hi ← comparison n
    equalityRest n (.between negated l lo hi)

/-- The list, query or table of an `in` and what follows. -/
def inTail : Nat → Bool → Expr → Parser Expr
  | 0, _, _ => tooDeep
  | n + 1, negated, l => do
    let t ← current
    if t.isSymbol "(" then
      advance
      if ← acceptSymbol ")" then
        equalityRest n (.inList negated l [])
      else if startsQuery (← current) then
        let q ← select n
        let _ ← expectSymbol ")"
        equalityRest n (.inSelect negated l q)
      else
        let items ← exprList n
        let _ ← expectSymbol ")"
        equalityRest n (.inList negated l items)
    else
      let (_, name, tok) ← qualifiedName
      if (← current).isSymbol "(" then
        advance
        if !(← acceptSymbol ")") then
          let _ ← exprList n
          let _ ← expectSymbol ")"
      equalityRest n (.inTable negated l name tok)

/-- The pattern of a `like` or `glob`, its escape, and what follows. -/
def patternTail : Nat → PatternOp → Bool → Expr → Parser Expr
  | 0, _, _, _ => tooDeep
  | n + 1, op, negated, l => do
    let r ← comparison n
    if ← acceptWord "ESCAPE" then
      let esc ← bitwise n
      equalityRest n (.pattern op negated l r (some esc))
    else
      equalityRest n (.pattern op negated l r none)

/-- A comparison level expression. -/
def comparison : Nat → Parser Expr
  | 0 => tooDeep
  | n + 1 => do
    let l ← bitwise n
    leftAssoc comparisonOp (bitwise n) n l

/-- A bitwise level expression. -/
def bitwise : Nat → Parser Expr
  | 0 => tooDeep
  | n + 1 => do
    let l ← additive n
    leftAssoc bitwiseOp (additive n) n l

/-- An additive level expression. -/
def additive : Nat → Parser Expr
  | 0 => tooDeep
  | n + 1 => do
    let l ← multiplicative n
    leftAssoc additiveOp (multiplicative n) n l

/-- A multiplicative level expression. -/
def multiplicative : Nat → Parser Expr
  | 0 => tooDeep
  | n + 1 => do
    let l ← concatenation n
    leftAssoc multiplicativeOp (concatenation n) n l

/-- A concatenation level expression. -/
def concatenation : Nat → Parser Expr
  | 0 => tooDeep
  | n + 1 => do
    let l ← collated n
    leftAssoc concatOp (collated n) n l

/-- An expression with its `collate` clauses. -/
def collated : Nat → Parser Expr
  | 0 => tooDeep
  | n + 1 => do
    let e ← unary n
    collations n e

/-- Continues a `collate` level. -/
def collations : Nat → Expr → Parser Expr
  | 0, _ => tooDeep
  | n + 1, e => do
    let t ← current
    if t.isWord "COLLATE" then
      advance
      let (c, tok) ← ids
      collations n (.collate e c tok)
    else pure e

/-- A prefix operator and its operand, or a primary expression. -/
def unary : Nat → Parser Expr
  | 0 => tooDeep
  | n + 1 => do
    let t ← current
    if t.isSymbol "-" then
      advance
      let e ← unary n
      pure (.unary .negate e)
    else if t.isSymbol "+" then
      advance
      let e ← unary n
      pure (.unary .plus e)
    else if t.isSymbol "~" then
      advance
      let e ← unary n
      pure (.unary .bitNot e)
    else if t.isWord "NOT" then
      advance
      let e ← negation n
      pure (.unary .not e)
    else primary n

/-- A literal, a parameter, a parenthesized expression or query, a `cast`, a `case`, an
`exists`, a `raise`, a call or a column. -/
def primary : Nat → Parser Expr
  | 0 => tooDeep
  | n + 1 => do
    let t ← current
    match t.kind with
    | .integer text =>
      advance
      pure (.integer text t)
    | .float text =>
      advance
      pure (.float text)
    | .string s =>
      if (← ahead 1).isSymbol "." then reference n t s false
      else
        advance
        pure (.literal (Datum.ofString s))
    | .blob b =>
      advance
      pure (.literal (.blob b))
    | .param _ =>
      advance
      let slot ← paramSlot t
      pure (.param slot t)
    | .symbol "(" =>
      advance
      if startsQuery (← current) then
        let q ← select n
        let _ ← expectSymbol ")"
        pure (.subquery q t)
      else
        let e ← expr n
        if ← acceptSymbol "," then
          let more ← exprList n
          let _ ← expectSymbol ")"
          pure (.row (e :: more) t)
        else
          let _ ← expectSymbol ")"
          pure e
    | .word w =>
      let u := w.toUpper
      if u == "NULL" then
        advance
        pure (.literal .null)
      else if u == "CAST" then
        advance
        let _ ← expectSymbol "("
        let e ← expr n
        expectWord "AS"
        let ty ← typeName
        let _ ← expectSymbol ")"
        pure (.cast e ty)
      else if u == "CASE" then
        advance
        let operand ← if (← current).isWord "WHEN" then pure none else some <$> expr n
        let arms ← caseArms n
        let otherwise ← if ← acceptWord "ELSE" then some <$> expr n else pure none
        expectWord "END"
        pure (.cases operand arms otherwise)
      else if u == "EXISTS" then
        advance
        let _ ← expectSymbol "("
        let q ← select n
        let _ ← expectSymbol ")"
        pure (.exists q)
      else if u == "RAISE" then
        advance
        let _ ← expectSymbol "("
        if ← acceptWord "IGNORE" then
          let _ ← expectSymbol ")"
          pure (.raise .ignore none t)
        else
          let kind ← if ← acceptWord "ROLLBACK" then pure RaiseKind.rollback
            else if ← acceptWord "ABORT" then pure RaiseKind.abort
            else do
              expectWord "FAIL"
              pure RaiseKind.fail
          let _ ← expectSymbol ","
          let (m, _) ← nm
          let _ ← expectSymbol ")"
          pure (.raise kind (some (.literal (.text (bytesOf m)))) t)
      else if u == "CURRENT_TIME" || u == "CURRENT_DATE" || u == "CURRENT_TIMESTAMP" then
        advance
        pure (.call w.toLower t false [] false [] none none)
      else
        match t.idj? with
        | some nm => reference n t nm false
        | none => failHere
    | .quoted q dq => reference n t q dq
    | _ => failHere

/-- The `when … then …` arms of a `case`, at least one. -/
def caseArms : Nat → Parser (List (Expr × Expr))
  | 0 => tooDeep
  | n + 1 => do
    expectWord "WHEN"
    let c ← expr n
    expectWord "THEN"
    let r ← expr n
    if (← current).isWord "WHEN" then
      let rest ← caseArms n
      pure ((c, r) :: rest)
    else pure [(c, r)]

/-- What follows a name in an expression: a call, a qualified column, or a plain column. -/
def reference : Nat → Token → String → Bool → Parser Expr
  | 0, _, _, _ => tooDeep
  | n + 1, t, name, dq => do
    advance
    if (← current).isSymbol "(" && (match t.kind with | .string _ => false | _ => true) then
      advance
      callTail n t name
    else if (← current).isSymbol "." then
      advance
      let (second, tok2) ← nm
      if (← current).isSymbol "." then
        advance
        let (third, tok3) ← nm
        pure (.column [name, second] third t (match tok3.kind with | .quoted _ d => d | _ => false))
      else pure (.column [name] second t (match tok2.kind with | .quoted _ d => d | _ => false))
    else pure (.column [] name t dq)

/-- The arguments of a call after its opening parenthesis, and its `filter` and `over`. -/
def callTail : Nat → Token → String → Parser Expr
  | 0, _, _ => tooDeep
  | n + 1, t, name => do
    let (distinct, args, star, orderBy) ←
      if ← acceptSymbol "*" then
        let _ ← expectSymbol ")"
        pure (false, [], true, [])
      else
        let distinct ← if ← acceptWord "DISTINCT" then pure true else do
          let _ ← acceptWord "ALL"
          pure false
        if ← acceptSymbol ")" then pure (distinct, [], false, [])
        else
          let args ← exprList n
          let orderBy ← if (← current).isWord "ORDER" then do
              advance
              expectWord "BY"
              sortList n
            else pure []
          let _ ← expectSymbol ")"
          pure (distinct, args, false, orderBy)
    let filter ←
      if (← current).isWord "FILTER" && (← ahead 1).isSymbol "(" then
        advance
        advance
        expectWord "WHERE"
        let e ← expr n
        let _ ← expectSymbol ")"
        pure (some e)
      else pure none
    let overClause ←
      if (← current).isWord "OVER" && ((← ahead 1).isSymbol "(" || (← ahead 1).nm?.isSome) then
        advance
        if ← acceptSymbol "(" then
          let w ← windowSpec n
          let _ ← expectSymbol ")"
          pure (some (Over.spec w))
        else
          let (wn, wt) ← nm
          pure (some (Over.named wn wt))
      else pure none
    pure (.call name t distinct args star orderBy filter overClause)

/-- The inside of a window's parentheses. -/
def windowSpec : Nat → Parser WindowSpec
  | 0 => tooDeep
  | n + 1 => do
    let t ← current
    let base ←
      if t.isWord "PARTITION" || t.isWord "ORDER" || t.isWord "RANGE" || t.isWord "ROWS" ||
          t.isWord "GROUPS" || t.isSymbol ")" then pure none
      else
        let (b, _) ← nm
        pure (some b)
    let partition ← if (← current).isWord "PARTITION" then do
        advance
        expectWord "BY"
        exprList n
      else pure []
    let orderBy ← if (← current).isWord "ORDER" then do
        advance
        expectWord "BY"
        sortList n
      else pure []
    let frame ← frameSpec n
    pure ⟨base, partition, orderBy, frame⟩

/-- A window frame, when one is written. -/
def frameSpec : Nat → Parser (Option Frame)
  | 0 => tooDeep
  | n + 1 => do
    let t ← current
    let unit? : Option FrameUnit :=
      if t.isWord "ROWS" then some .rows
      else if t.isWord "RANGE" then some .range
      else if t.isWord "GROUPS" then some .groups
      else none
    match unit? with
    | none => pure none
    | some unit =>
      advance
      let (start, finish) ←
        if ← acceptWord "BETWEEN" then
          let s ← frameBound n true
          expectWord "AND"
          let e ← frameBound n false
          pure (s, e)
        else
          let s ← frameBound n true
          pure (s, FrameBound.currentRow)
      let exclude ← frameExclude
      if !frameSupported start finish then
        throw (Fault.error "unsupported frame specification")
      pure (some ⟨unit, start, finish, exclude⟩)

/-- A bound of a frame; `isStart` for the first, which may be `unbounded preceding`. -/
def frameBound : Nat → Bool → Parser FrameBound
  | 0, _ => tooDeep
  | n + 1, isStart => do
    let t ← current
    if t.isWord "UNBOUNDED" then
      advance
      if isStart then
        expectWord "PRECEDING"
        pure .unboundedPreceding
      else
        expectWord "FOLLOWING"
        pure .unboundedFollowing
    else if t.isWord "CURRENT" && (← ahead 1).isWord "ROW" then
      advance
      advance
      pure .currentRow
    else
      let e ← expr n
      if ← acceptWord "PRECEDING" then pure (.preceding e)
      else
        expectWord "FOLLOWING"
        pure (.following e)

/-- Expressions separated by commas, at least one. -/
def exprList : Nat → Parser (List Expr)
  | 0 => tooDeep
  | n + 1 => do
    let e ← expr n
    if ← acceptSymbol "," then
      let es ← exprList n
      pure (e :: es)
    else pure [e]

/-- The terms of an `order by`, at least one. -/
def sortList : Nat → Parser (List SortTerm)
  | 0 => tooDeep
  | n + 1 => do
    let e ← expr n
    let descending ← sortOrder
    let nullsFirst ← nullsOrder
    let term : SortTerm := ⟨e, descending, nullsFirst⟩
    if ← acceptSymbol "," then
      let rest ← sortList n
      pure (term :: rest)
    else pure [term]

/-- A query: an optional `with`, cores joined by compound operators, ordering and paging. -/
def select : Nat → Parser Select
  | 0 => tooDeep
  | n + 1 => do
    let ctes ← if (← current).isWord "WITH" then some <$> withClause n else pure none
    let (first, orderBy, limit, offset) ← oneSelect n
    compoundRest n ctes (.core first) orderBy limit offset

/-- Continues a compound query after a core with its own ordering and paging. -/
def compoundRest : Nat → Option With → Compound → List SortTerm → Option Expr → Option Expr →
    Parser Select
  | 0, _, _, _, _, _ => tooDeep
  | n + 1, ctes, body, orderBy, limit, offset => do
    match ← compoundOp? with
    | some (op, tok) =>
      if !orderBy.isEmpty then
        throw (Fault.error s!"ORDER BY clause should come after {CompoundOp.text op} not before")
      if limit.isSome then
        throw (Fault.error s!"LIMIT clause should come after {CompoundOp.text op} not before")
      let (next, orderBy, limit, offset) ← oneSelect n
      compoundRest n ctes (.join op body next tok) orderBy limit offset
    | none => pure ⟨ctes, body, orderBy, limit, offset⟩

/-- A `with` clause. -/
def withClause : Nat → Parser With
  | 0 => tooDeep
  | n + 1 => do
    expectWord "WITH"
    let recursive ← acceptWord "RECURSIVE"
    let ctes ← cteList n
    pure ⟨recursive, ctes⟩

/-- The common table expressions of a `with`, at least one. -/
def cteList : Nat → Parser (List Cte)
  | 0 => tooDeep
  | n + 1 => do
    let (name, tok) ← nm
    let columns ← if ← acceptSymbol "(" then do
        let cols ← eidList n
        let _ ← expectSymbol ")"
        pure cols
      else pure []
    expectWord "AS"
    let materialized ← if ← acceptWord "MATERIALIZED" then pure (some true)
      else if (← current).isWord "NOT" then do
        advance
        expectWord "MATERIALIZED"
        pure (some false)
      else pure none
    let _ ← expectSymbol "("
    let q ← select n
    let _ ← expectSymbol ")"
    let cte : Cte := ⟨name, tok, columns, materialized, q⟩
    if ← acceptSymbol "," then
      let rest ← cteList n
      pure (cte :: rest)
    else pure [cte]

/-- Column names with optional collations and orders, at least one. -/
def eidList : Nat → Parser (List String)
  | 0 => tooDeep
  | n + 1 => do
    let (name, _) ← nm
    if ← acceptWord "COLLATE" then
      let _ ← ids
    let _ ← sortOrder
    if ← acceptSymbol "," then
      let rest ← eidList n
      pure (name :: rest)
    else pure [name]

/-- One core with its own ordering and paging. -/
def oneSelect : Nat → Parser (Core × List SortTerm × Option Expr × Option Expr)
  | 0 => tooDeep
  | n + 1 => do
    let t ← current
    if t.isWord "VALUES" then
      advance
      let rows ← valuesRows n
      pure (.values rows t, [], none, none)
    else if t.isWord "SELECT" then
      advance
      let distinct ← if ← acceptWord "DISTINCT" then pure true else do
        let _ ← acceptWord "ALL"
        pure false
      let columns ← resultColumns n
      let source ← if ← acceptWord "FROM" then fromTerms n true else pure []
      let filter ← if ← acceptWord "WHERE" then some <$> expr n else pure none
      let groupBy ← if (← current).isWord "GROUP" then do
          advance
          expectWord "BY"
          exprList n
        else pure []
      let having ← if ← acceptWord "HAVING" then some <$> expr n else pure none
      let windows ← if ← opensWindow then do
          advance
          windowDefs n
        else pure []
      let orderBy ← if (← current).isWord "ORDER" then do
          advance
          expectWord "BY"
          sortList n
        else pure []
      let (limit, offset) ← limitClause n
      pure (.select distinct columns source filter groupBy having windows t, orderBy, limit, offset)
    else failHere

/-- The named windows of a `window` clause, at least one. -/
def windowDefs : Nat → Parser (List (String × WindowSpec))
  | 0 => tooDeep
  | n + 1 => do
    let (name, _) ← nm
    expectWord "AS"
    let _ ← expectSymbol "("
    let w ← windowSpec n
    let _ ← expectSymbol ")"
    if ← acceptSymbol "," then
      let rest ← windowDefs n
      pure ((name, w) :: rest)
    else pure [(name, w)]

/-- An optional `limit`, with its offset. -/
def limitClause : Nat → Parser (Option Expr × Option Expr)
  | 0 => tooDeep
  | n + 1 => do
    if ← acceptWord "LIMIT" then
      let a ← expr n
      if ← acceptWord "OFFSET" then
        let b ← expr n
        pure (some a, some b)
      else if ← acceptSymbol "," then
        let b ← expr n
        pure (some b, some a)
      else pure (some a, none)
    else pure (none, none)

/-- The rows of a `values` clause. -/
def valuesRows : Nat → Parser (List (List Expr))
  | 0 => tooDeep
  | n + 1 => do
    let _ ← expectSymbol "("
    let row ← exprList n
    let _ ← expectSymbol ")"
    if (← current).isSymbol "," && (← ahead 1).isSymbol "(" then
      advance
      let rest ← valuesRows n
      pure (row :: rest)
    else pure [row]

/-- The result columns of a `select`, at least one. -/
def resultColumns : Nat → Parser (List ResultColumn)
  | 0 => tooDeep
  | n + 1 => do
    let col ← resultColumn n
    if ← acceptSymbol "," then
      let rest ← resultColumns n
      pure (col :: rest)
    else pure [col]

/-- One result column of a `select`. -/
def resultColumn : Nat → Parser ResultColumn
  | 0 => tooDeep
  | n + 1 => do
    let t ← current
    if t.isSymbol "*" then
      advance
      pure (.all t)
    else if t.nm?.isSome && (← ahead 1).isSymbol "." && (← ahead 2).isSymbol "*" then
      advance
      advance
      advance
      pure (.allOf (t.nm?.getD "") t)
    else
      let e ← expr n
      let after ← current
      let text := trimBlanks (← between t.index after.index)
      if ← acceptWord "AS" then
        let (a, _) ← nm
        pure (.expr e (some a) text)
      else
        match after.ids? with
        | some a =>
          if ← opensWindow then pure (.expr e none text)
          else
            advance
            pure (.expr e (some a) text)
        | none => pure (.expr e none text)

/-- The terms of a `from` clause; `first` when no term comes before. -/
def fromTerms : Nat → Bool → Parser (List FromTerm)
  | 0, _ => tooDeep
  | n + 1, first => do
    let join ← if first then pure (some {}) else joinOperator?
    match join with
    | none => pure []
    | some kind =>
      let term ← fromTerm n kind first
      let rest ← fromTerms n false
      pure (term :: rest)

/-- One term of a `from` clause after its join operator. -/
def fromTerm : Nat → JoinKind → Bool → Parser FromTerm
  | 0, _, _ => tooDeep
  | n + 1, kind, first => do
    let t ← current
    let source ←
      if t.isSymbol "(" then
        advance
        if startsQuery (← current) then
          let q ← select n
          let _ ← expectSymbol ")"
          pure (Source.subquery q)
        else
          let terms ← fromTerms n true
          let _ ← expectSymbol ")"
          pure (Source.nested terms)
      else
        let (schema, name, tok) ← qualifiedName
        if (← current).isSymbol "(" then
          advance
          let args ← if (← current).isSymbol ")" then pure [] else exprList n
          let _ ← expectSymbol ")"
          pure (Source.call name tok args)
        else pure (Source.table schema name tok)
    let asName ← if ← acceptWord "AS" then some <$> (Prod.fst <$> nm)
      else match (← current).ids? with
        | some a =>
          if ← opensWindow then pure none
          else
            advance
            pure (some a)
        | none => pure none
    let hint ← if (← current).isWord "INDEXED" then do
        advance
        expectWord "BY"
        let (i, _) ← nm
        pure (IndexHint.indexedBy i)
      else if (← current).isWord "NOT" && (← ahead 1).isWord "INDEXED" then do
        advance
        advance
        pure IndexHint.notIndexed
      else pure IndexHint.none
    let onTok ← current
    let on ← if ← acceptWord "ON" then some <$> expr n else pure none
    let usingNames ← if (← current).isWord "USING" then do
        advance
        let _ ← expectSymbol "("
        let names ← nameList n
        let _ ← expectSymbol ")"
        pure names
      else pure []
    if first && (on.isSome || !usingNames.isEmpty) then
      let which := if on.isSome then "ON" else "USING"
      let _ := onTok
      throw (Fault.error s!"a JOIN clause is required before {which}")
    pure ⟨source, asName, hint, kind, on, usingNames⟩

end

end Parser

end RecordMap.Sql
