import RecordMap.Proofs.Query.FillIn
import RecordMap.Proofs.Query.CompileCases

/-!
# The rendering with values inline

`render write m e` is the translation `compile` makes of `e`, with every value written in
place by `write` where `compile` puts a placeholder: a constant as it is spelt, a list item by
item in parentheses, a member of an object constant as the member, a converted constant as the
converted value. It threads no arguments, so it says what a compiled statement means once its
values are bound. `Expr.plainCalls` is the condition under which the two are compared: the
methods of calls are plain names, whose lowercase holds no quote and no `?`.
-/

namespace RecordMap

open RecordMap.Text

/-! ## Binary operations -/

theorem inert_binaryInfix {op : BinaryOp} {sqlOp : String} (h : op.sql? = some sqlOp) (b : Bool) :
    Inert (binaryInfix op sqlOp b) := by
  cases op <;> simp only [BinaryOp.sql?, Option.some.injEq, reduceCtorEq] at h <;> subst h <;>
    cases b <;> decide

/-! ## The rendering with values inline -/

theorem bind_eq_some_of {α β : Type} {x : Option α} {f : α → Option β} {a : α} {b : β}
    (hx : x = some a) (hf : f a = some b) : x >>= f = some b := by
  rw [hx]
  exact hf

mutual

/-- Whether every call of the expression names its method by a plain identifier. -/
def Expr.plainCalls : Expr → Bool
  | .parameter | .constant _ => true
  | .member o _ => o.plainCalls
  | .binary _ l r => l.plainCalls && r.plainCalls
  | .call m o args =>
    isPlainName m && (match o with | some e => e.plainCalls | none => true) &&
      Expr.plainCallsAll args
  | .convert o _ => o.plainCalls
  | .unary _ o => o.plainCalls
  | .conditional a b c => a.plainCalls && b.plainCalls && c.plainCalls

/-- Whether every call of the expressions names its method by a plain identifier. -/
def Expr.plainCallsAll : List Expr → Bool
  | [] => true
  | e :: es => e.plainCalls && Expr.plainCallsAll es

end

section PlainCalls

variable {o e l r : Expr} {name method : String} {es : List Expr}

@[simp] theorem Expr.plainCalls_member : (Expr.member o name).plainCalls = o.plainCalls := rfl

@[simp] theorem Expr.plainCalls_binary {op : BinaryOp} :
    (Expr.binary op l r).plainCalls = (l.plainCalls && r.plainCalls) := rfl

@[simp] theorem Expr.plainCalls_free :
    (Expr.call method none es).plainCalls = (isPlainName method && Expr.plainCallsAll es) := by
  show (isPlainName method && true && Expr.plainCallsAll es) = _
  rw [Bool.and_true]

@[simp] theorem Expr.plainCalls_method :
    (Expr.call method (some e) es).plainCalls =
      (isPlainName method && e.plainCalls && Expr.plainCallsAll es) := rfl

@[simp] theorem Expr.plainCalls_convert {t : DataType} :
    (Expr.convert o t).plainCalls = o.plainCalls := rfl

@[simp] theorem Expr.plainCallsAll_nil : Expr.plainCallsAll [] = true := rfl

@[simp] theorem Expr.plainCallsAll_cons :
    Expr.plainCallsAll (e :: es) = (e.plainCalls && Expr.plainCallsAll es) := rfl

end PlainCalls

/-- A constant written in place: a list item by item in parentheses, any other value as
`write` spells it. -/
def inlineConstant (write : Host → String) : Host → Compiled
  | .list items =>
    { sql := "(" ++ ",".intercalate (items.map fun v => write (.scalar v)) ++ ")",
      value := some (.list items) }
  | other => { sql := write other, value := some other }

mutual

/-- The text of an expression with each value it binds written in place by `write`: the
translation `compile` makes, with the values inline where `compile` puts placeholders. -/
def render (write : Host → String) (m : Mapping) : Expr → Option Compiled
  | .binary op l r => do
    let sqlOp ← op.sql?
    let cl ← render write m l
    let cr ← render write m r
    pure (.ofSql (binarySql op sqlOp cl cr))
  | .call method object callArgs =>
    match method, object, callArgs with
    | "like", none, [a, b] => do
      let ca ← render write m a
      let cb ← render write m b
      pure (.ofSql ("(" ++ ca.sql ++ " like " ++ cb.sql ++ ")"))
    | "contains", none, [collection, item] => do
      let cc ← render write m collection
      let ci ← render write m item
      pure (.ofSql ("(" ++ ci.sql ++ " in " ++ cc.sql ++ ")"))
    | "contains", some receiver, [item] => do
      let cr ← render write m receiver
      let ci ← render write m item
      if cr.isText then pure (.ofSql ("(" ++ cr.sql ++ " like ('%'||" ++ ci.sql ++ "||'%'))"))
      else pure (.ofSql ("(" ++ ci.sql ++ " in " ++ cr.sql ++ ")"))
    | "starts_with", some receiver, [p] => do
      let cr ← render write m receiver
      let cp ← render write m p
      pure (.ofSql ("(" ++ cr.sql ++ " like (" ++ cp.sql ++ "||'%'))"))
    | "ends_with", some receiver, [s] => do
      let cr ← render write m receiver
      let cs ← render write m s
      pure (.ofSql ("(" ++ cr.sql ++ " like ('%'||" ++ cs.sql ++ "))"))
    | "equals", some receiver, [o] => do
      let cr ← render write m receiver
      let co ← render write m o
      pure (.ofSql ("(" ++ cr.sql ++ " = (" ++ co.sql ++ "))"))
    | "to_lower", some receiver, [] => do
      let cr ← render write m receiver
      pure (.ofSql ("(lower(" ++ cr.sql ++ "))"))
    | "to_upper", some receiver, [] => do
      let cr ← render write m receiver
      pure (.ofSql ("(upper(" ++ cr.sql ++ "))"))
    | _, _, rest => do
      let parts ← renderAll write m rest
      pure (.ofSql (lowercase method ++ "(" ++ ",".intercalate parts ++ ")"))
  | .constant h => pure (inlineConstant write h)
  | .convert operand target => do
    let r ← render write m operand
    match r.value with
    | some (.scalar v) =>
      if v.isNull then pure { r with dataType := some target }
      else
        match v.coerce target with
        | .ok w => pure { inlineConstant write (.scalar w) with dataType := some target }
        | .error _ => none
    | _ => pure { r with dataType := some target }
  | .member .parameter name =>
    (m.findByProperty name).map fun c =>
      { sql := quoteIdentifier c.name, dataType := some c.dataType }
  | .member object name => do
    let recv ← render write m object
    match recv.value with
    | some (.object id tn members) =>
      ((Host.object id tn members).member? name).map (inlineConstant write)
    | _ => none
  | _ => none

/-- The texts of expressions rendered in order. -/
def renderAll (write : Host → String) (m : Mapping) : List Expr → Option (List String)
  | [] => pure []
  | e :: rest => do
    let c ← render write m e
    let cs ← renderAll write m rest
    pure (c.sql :: cs)

end

end RecordMap
