import RecordMap.Query.Host

/-!
# Expression trees

An `Expr` is a predicate or value over the queried record, as a query states it: the record
itself (`parameter`), a constant, a member of an expression, a binary operation, a call of a
named method with or without a receiver, a conversion to a semantic type, a unary operation,
or a conditional. `col p` is the member `p` of the record.

`Expr.debugText` writes the tree in structural form, every node by its constructor and named
fields.
-/

namespace RecordMap

/-- Binary operators. -/
inductive BinaryOp where
  | gt | ge | lt | le | bitAnd | and | bitOr | or | eq | ne | add | sub | mul | div | rem
  deriving Repr, DecidableEq, Inhabited

/-- Unary operators. -/
inductive UnaryOp where
  | not | neg
  deriving Repr, DecidableEq, Inhabited

/-- An expression over the queried record. -/
inductive Expr where
  | parameter
  | constant (h : Host)
  | member (object : Expr) (name : String)
  | binary (op : BinaryOp) (left right : Expr)
  | call (method : String) (object : Option Expr) (args : List Expr)
  | convert (operand : Expr) (target : DataType)
  | unary (op : UnaryOp) (operand : Expr)
  | conditional (test ifTrue ifFalse : Expr)
  deriving Repr, Inhabited

namespace BinaryOp

/-- The SQL operator, absent for arithmetic. -/
def sql? : BinaryOp → Option String
  | .gt => some ">"
  | .ge => some ">="
  | .lt => some "<"
  | .le => some "<="
  | .bitAnd => some "&"
  | .and => some "and"
  | .bitOr => some "|"
  | .or => some "or"
  | .eq => some "="
  | .ne => some "<>"
  | .add | .sub | .mul | .div | .rem => none

/-- The constructor name. -/
def variantName : BinaryOp → String
  | .gt => "Gt"
  | .ge => "Ge"
  | .lt => "Lt"
  | .le => "Le"
  | .bitAnd => "BitAnd"
  | .and => "And"
  | .bitOr => "BitOr"
  | .or => "Or"
  | .eq => "Eq"
  | .ne => "Ne"
  | .add => "Add"
  | .sub => "Sub"
  | .mul => "Mul"
  | .div => "Div"
  | .rem => "Rem"

/-- The operator of a short name. -/
def ofName? : String → Option BinaryOp
  | "gt" => some .gt
  | "ge" => some .ge
  | "lt" => some .lt
  | "le" => some .le
  | "bit_and" => some .bitAnd
  | "and" => some .and
  | "bit_or" => some .bitOr
  | "or" => some .or
  | "eq" => some .eq
  | "ne" => some .ne
  | "add" => some .add
  | "sub" => some .sub
  | "mul" => some .mul
  | "div" => some .div
  | "rem" => some .rem
  | _ => none

end BinaryOp

/-- The constructor name of a unary operator. -/
def UnaryOp.variantName : UnaryOp → String
  | .not => "Not"
  | .neg => "Neg"

namespace Expr

/-- The member `p` of the queried record. -/
def col (p : String) : Expr := .member .parameter p

/-- The name of the node's kind, as error messages give it. -/
def kind : Expr → String
  | .parameter => "Parameter"
  | .constant _ => "Constant"
  | .member .. => "MemberAccess"
  | .binary .. => "Binary"
  | .call .. => "Call"
  | .convert .. => "Convert"
  | .unary .. => "Unary"
  | .conditional .. => "Conditional"

mutual

/-- Structural text of an expression. -/
def debugText : Expr → String
  | .parameter => "Parameter"
  | .constant h => "Constant(" ++ h.debugText ++ ")"
  | .member o n => "Member \x7b object: " ++ debugText o ++ ", name: " ++ Text.debugQuote n ++ " \x7d"
  | .binary op l r => "Binary \x7b op: " ++ op.variantName ++ ", left: " ++ debugText l ++
      ", right: " ++ debugText r ++ " \x7d"
  | .call m o args => "Call \x7b method: " ++ Text.debugQuote m ++ ", object: " ++
      (match o with
        | some e => "Some(" ++ debugText e ++ ")"
        | none => "None") ++ ", args: [" ++ debugTexts args ++ "] \x7d"
  | .convert e t => "Convert \x7b operand: " ++ debugText e ++ ", target: " ++ t.variantName ++ " \x7d"
  | .unary op e => "Unary \x7b op: " ++ op.variantName ++ ", operand: " ++ debugText e ++ " \x7d"
  | .conditional t a b => "Conditional \x7b test: " ++ debugText t ++ ", if_true: " ++
      debugText a ++ ", if_false: " ++ debugText b ++ " \x7d"

/-- Structural texts of expressions, separated by commas. -/
def debugTexts : List Expr → String
  | [] => ""
  | [e] => debugText e
  | e :: rest => debugText e ++ ", " ++ debugTexts rest

end

end Expr

end RecordMap
