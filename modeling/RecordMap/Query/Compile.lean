import RecordMap.Query.Expr
import RecordMap.Schema.Mapping
import RecordMap.Text.Case

/-!
# Compiling expressions to SQL

`compile` turns an expression over a record into SQL text against the record's mapping,
appending the values it binds to a list of arguments, one `?` each. Members of the record
become quoted storage names; constants become placeholders (a list becomes one placeholder per
item, in parentheses); a member of an object constant is looked up at compile time and bound
in the object's place. Comparisons, logic and bit operations are written infix in
parentheses, and an equality or inequality with a null constant on either side becomes `is` or
`is not`. Method calls with a known meaning become `like` patterns, `in` lists, `lower` and
`upper`; any other call is written by its lowercased name with its arguments. A conversion
converts a constant at compile time and records the target type. Arithmetic, negation,
conditionals and the bare record cannot be compiled.

The arguments appear in the order their placeholders appear in the text, except that a
membership test against a collection binds the item before the collection's values, and a
text containment binds the receiver's values first.
-/

namespace RecordMap

open RecordMap.Text

/-- A compiled expression: its SQL, the constant it stands for, and its known type. -/
structure Compiled where
  sql : String
  value : Option Host := none
  dataType : Option DataType := none
  deriving Repr, Inhabited

namespace Compiled

/-- Plain SQL with no constant and no type. -/
def ofSql (sql : String) : Compiled := { sql }

/-- Whether the expression is the null constant. -/
def carriesNull (c : Compiled) : Bool := (c.value.map Host.isNull).getD false

/-- Whether the expression is text: of text type, or a text constant. -/
def isText (c : Compiled) : Bool :=
  (c.dataType.map DataType.isText).getD false ||
    match c.value with
    | some (.scalar (.text _)) => true
    | _ => false

end Compiled

/-- The error of an expression that has no SQL form. -/
def unsupported (message : String) : Error := .unsupportedExpression message

/-- The placeholder of a constant, with its values appended to the arguments. -/
def placeholder (h : Host) (args : List Host) : Compiled × List Host :=
  match h with
  | .list items =>
    ({ sql := "(" ++ ",".intercalate (items.map fun _ => "?") ++ ")", value := some h },
      args ++ items.map Host.scalar)
  | other => ({ sql := "?", value := some other }, args ++ [other])

/-- The arguments with the last one replaced. -/
def replaceLast (args : List Host) (h : Host) : List Host :=
  if args.isEmpty then args else args.dropLast ++ [h]

/-- The missing-member error of a mapping. -/
def noMappedMember (m : Mapping) (name : String) : Error :=
  unsupported (m.typeName ++ " has no mapped member " ++ name)

/-- Infix SQL of a binary operation. -/
def binarySql (op : BinaryOp) (sqlOp : String) (l r : Compiled) : String :=
  let eitherNull := l.carriesNull || r.carriesNull
  match op with
  | .eq => if eitherNull then "(" ++ l.sql ++ " is " ++ r.sql ++ ")"
      else "(" ++ l.sql ++ " " ++ sqlOp ++ " " ++ r.sql ++ ")"
  | .ne => if eitherNull then "(" ++ l.sql ++ " is not " ++ r.sql ++ ")"
      else "(" ++ l.sql ++ " " ++ sqlOp ++ " " ++ r.sql ++ ")"
  | _ => "(" ++ l.sql ++ " " ++ sqlOp ++ " " ++ r.sql ++ ")"

mutual

/-- Compiles an expression, appending its bound values to `args`. -/
def compile (m : Mapping) : Expr → List Host → Outcome (Compiled × List Host)
  | .binary op l r, args => do
    let sqlOp ← match op.sql? with
      | some s => pure s
      | none => throw (unsupported ("operator " ++ op.variantName ++ " is not supported"))
    let (cl, args) ← compile m l args
    let (cr, args) ← compile m r args
    pure (.ofSql (binarySql op sqlOp cl cr), args)
  | .call method object callArgs, args =>
    match method, object, callArgs with
    | "like", none, [a, b] => do
      let (ca, args) ← compile m a args
      let (cb, args) ← compile m b args
      pure (.ofSql ("(" ++ ca.sql ++ " like " ++ cb.sql ++ ")"), args)
    | "contains", none, [collection, item] => do
      let (cc, own) ← compile m collection []
      let (ci, args) ← compile m item args
      pure (.ofSql ("(" ++ ci.sql ++ " in " ++ cc.sql ++ ")"), args ++ own)
    | "contains", some receiver, [item] => do
      let (cr, own) ← compile m receiver []
      if cr.isText then
        let (ci, args) ← compile m item (args ++ own)
        pure (.ofSql ("(" ++ cr.sql ++ " like ('%'||" ++ ci.sql ++ "||'%'))"), args)
      else
        let (ci, args) ← compile m item args
        pure (.ofSql ("(" ++ ci.sql ++ " in " ++ cr.sql ++ ")"), args ++ own)
    | "starts_with", some receiver, [p] => do
      let (cr, args) ← compile m receiver args
      let (cp, args) ← compile m p args
      pure (.ofSql ("(" ++ cr.sql ++ " like (" ++ cp.sql ++ "||'%'))"), args)
    | "ends_with", some receiver, [s] => do
      let (cr, args) ← compile m receiver args
      let (cs, args) ← compile m s args
      pure (.ofSql ("(" ++ cr.sql ++ " like ('%'||" ++ cs.sql ++ "))"), args)
    | "equals", some receiver, [o] => do
      let (cr, args) ← compile m receiver args
      let (co, args) ← compile m o args
      pure (.ofSql ("(" ++ cr.sql ++ " = (" ++ co.sql ++ "))"), args)
    | "to_lower", some receiver, [] => do
      let (cr, args) ← compile m receiver args
      pure (.ofSql ("(lower(" ++ cr.sql ++ "))"), args)
    | "to_upper", some receiver, [] => do
      let (cr, args) ← compile m receiver args
      pure (.ofSql ("(upper(" ++ cr.sql ++ "))"), args)
    | _, _, rest => do
      let (parts, args) ← compileAll m rest args
      pure (.ofSql (lowercase method ++ "(" ++ ",".intercalate parts ++ ")"), args)
  | .constant h, args => pure (placeholder h args)
  | .convert operand target, args => do
    let (r, args) ← compile m operand args
    match r.value with
    | some (.scalar v) =>
      if v.isNull then pure ({ r with dataType := some target }, args)
      else
        match v.coerce target with
        | .ok w =>
          let h := Host.scalar w
          pure ({ r with value := some h, dataType := some target }, replaceLast args h)
        | .error f => throw (.unsupportedType f)
    | _ => pure ({ r with dataType := some target }, args)
  | .member .parameter name, args =>
    match m.findByProperty name with
    | some c => pure ({ sql := quoteIdentifier c.name, dataType := some c.dataType }, args)
    | none => throw (noMappedMember m name)
  | .member object name, args => do
    let (recv, args) ← compile m object args
    match recv.value with
    | some (.object id tn members) =>
      match (Host.object id tn members).member? name with
      | some v => pure (placeholder v args.dropLast)
      | none => throw (unsupported (tn ++ " has no member " ++ name))
    | _ => throw (unsupported ("member " ++ name ++ " needs an object receiver, got " ++ object.kind))
  | other, _ => throw (unsupported ("cannot compile a " ++ other.kind ++ " expression"))

/-- Compiles arguments in order, returning their SQL texts. -/
def compileAll (m : Mapping) : List Expr → List Host → Outcome (List String × List Host)
  | [], args => pure ([], args)
  | e :: rest, args => do
    let (c, args) ← compile m e args
    let (cs, args) ← compileAll m rest args
    pure (c.sql :: cs, args)

end

/-- The storage name an ordering expression sorts by: a member of the record, perhaps under
conversions. -/
def resolveOrdering (m : Mapping) : Expr → Outcome String
  | .member .parameter name =>
    match m.findByProperty name with
    | some c => pure c.name
    | none => throw (noMappedMember m name)
  | .convert operand _ => resolveOrdering m operand
  | other => throw (unsupported ("order by requires a member of the queried record, got " ++
      other.kind))

end RecordMap
