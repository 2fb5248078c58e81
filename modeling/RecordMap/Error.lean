import RecordMap.Value.Basic

/-!
# Errors

`Error` is every failure of the library, by cause: a connection that cannot be opened, a
schema that cannot be mapped, an expression or a type that cannot be translated, a failed
statement with the engine's result code, a NOT NULL violation, a misuse of transactions, and a
missing row or column. `Error.message` is the one place that words them.

A NOT NULL violation raised while writing a record carries, for every mapped column, its
storage name, whether it may hold null, and the value the record had there, so that
`Error.notNullColumns` can name the columns that caused it.

`TypeFault` is the cause of a value that has no representation in a requested type.
-/

namespace RecordMap

/-- Why a value cannot be represented in a type. -/
inductive TypeFault where
  /-- The value (as shown) lies outside the range of the type named. -/
  | outOfRange (shown target : String)
  /-- A NaN or an infinity has no decimal. -/
  | noDecimal (shown : String)
  /-- Text that is not an identifier. -/
  | badUuid (text : String) (fault : UuidError)
  /-- A value of one kind cannot become the field type named. -/
  | cannotConvert (kind target : String)
  /-- A value that is no variant of the enumeration named. -/
  | notVariant (shown enumName : String)
  /-- A timestamp or interval (as shown) that does not fit 64-bit ticks. -/
  | tickRange (shown : String)
  /-- Stored text that is no timestamp. -/
  | badTimestamp (text : String)
  /-- A value of a kind that cannot be a statement parameter. -/
  | cannotBind (kind : String)
  /-- A column cannot be read into the type named. -/
  | cannotRead (name : String)
  /-- A row value (in structural text) is not of the kind a getter reads. -/
  | wrongKind (expected shown : String)
  deriving Repr

/-- The text of a type fault. -/
def TypeFault.message : TypeFault → String
  | .outOfRange v t => v ++ " is out of range for " ++ t
  | .noDecimal v => v ++ " has no decimal representation"
  | .badUuid s e => "'" ++ s ++ "' is not a valid uuid: " ++ e.message
  | .cannotConvert k t => "cannot convert " ++ k ++ " value into " ++ t
  | .notVariant v n => v ++ " is not a " ++ n ++ " variant"
  | .tickRange v => v ++ " is out of range for tick storage"
  | .badTimestamp s => "'" ++ s ++ "' is not a recognized datetime"
  | .cannotBind k => "cannot bind a " ++ k ++ " as a statement parameter"
  | .cannotRead n => "cannot read a column into " ++ n
  | .wrongKind k v => "expected " ++ k ++ ", got " ++ v

/-- A mapped column as a NOT NULL violation reports it: storage name, whether it may hold
null, and the record's value there. -/
structure ColumnValue where
  name : String
  nullable : Bool
  value : Value
  deriving Repr

/-- A failure of the library. -/
inductive Error where
  | connection (path message : String)
  | schema (message : String)
  | unsupportedExpression (message : String)
  | unsupportedType (fault : TypeFault)
  | execution (code : Int) (message : String)
  | notNull (message : String) (record : Option (List ColumnValue))
  | transactionState (message : String)
  | notFound (message : String)
  deriving Repr

namespace Error

/-- The extended result code of a NOT NULL violation. -/
def notNullCode : Int := 1299

/-- The text of an error. -/
def message : Error → String
  | .connection p m => "could not open database '" ++ p ++ "': " ++ m
  | .schema m => "schema error: " ++ m
  | .unsupportedExpression m => "unsupported expression: " ++ m
  | .unsupportedType f => "unsupported type: " ++ f.message
  | .execution c m => m ++ " (code " ++ toString c ++ ")"
  | .notNull m _ => "NOT NULL constraint violation: " ++ m
  | .transactionState m => "invalid transaction state: " ++ m
  | .notFound m => "not found: " ++ m

/-- The name of the error's cause. -/
def kind : Error → String
  | .connection .. => "Connection"
  | .schema _ => "Schema"
  | .unsupportedExpression _ => "UnsupportedExpression"
  | .unsupportedType _ => "UnsupportedType"
  | .execution .. => "Execution"
  | .notNull .. => "NotNullConstraintViolation"
  | .transactionState _ => "TransactionState"
  | .notFound _ => "NotFound"

/-- The engine's extended result code, for failed statements and NOT NULL violations. -/
def code? : Error → Option Int
  | .execution c _ => some c
  | .notNull .. => some notNullCode
  | _ => none

/-- Whether retrying could succeed: an I/O error, a full disk, a busy database, memory
exhaustion or an interrupt, by the primary result code. -/
def isTransient (e : Error) : Bool :=
  match e.code? with
  | some c => [10, 13, 5, 7, 9].contains (c % 256)
  | none => false

/-- The storage names of the non-nullable columns that held null. -/
def notNullColumns : Error → List String
  | .notNull _ (some cols) => (cols.filter fun c => !c.nullable && c.value.isNull).map (·.name)
  | _ => []

/-- The error of a failed statement: a NOT NULL violation has its own cause, every other
code is a failed statement. -/
def ofEngine (code : Int) (message : String) : Error :=
  if code = notNullCode then .notNull message none else .execution code message

end Error

abbrev Outcome (α : Type) := Except Error α

end RecordMap
