import RecordMap.Value.Debug
import RecordMap.Error

/-!
# Result rows

A `Row` is one row of an untyped query: the result column names and the values, which need not
be as many. Values are read by position or by a column name matched up to ASCII case (the
first such column). The typed getters accept only their own kind, except that a real getter
also takes an integer; asking past the last value is a missing column.
-/

namespace RecordMap

/-- One row of an untyped query. -/
structure Row where
  columns : List String
  values : List Value
  deriving Repr, Inhabited

namespace Row

def get? (r : Row) (i : Nat) : Option Value := r.values[i]?

/-- The value of the first column whose name matches up to ASCII case. -/
def getByName? (r : Row) (name : String) : Option Value :=
  (r.columns.findIdx? fun c => c.toList.map Char.toLower == name.toList.map Char.toLower).bind
    r.get?

/-- The error of a value of the wrong kind. -/
def expected (kind : String) (got : Value) : Error :=
  .unsupportedType (.wrongKind kind got.debugText)

/-- The error of a position past the last value. -/
def outOfBounds (i : Nat) : Error := .notFound ("column " ++ toString i ++ " out of bounds")

/-- The integer at a position. -/
def getInt (r : Row) (i : Nat) : Outcome Int :=
  match r.get? i with
  | some (.int n) => .ok n
  | some other => .error (expected "INTEGER" other)
  | none => .error (outOfBounds i)

/-- The real at a position; an integer is widened. -/
def getFloat (r : Row) (i : Nat) : Outcome Float :=
  match r.get? i with
  | some (.float x) => .ok x
  | some (.int n) => .ok (Numeral.floatOfInt n)
  | some other => .error (expected "REAL" other)
  | none => .error (outOfBounds i)

/-- The text at a position. -/
def getText (r : Row) (i : Nat) : Outcome String :=
  match r.get? i with
  | some (.text s) => .ok s
  | some other => .error (expected "TEXT" other)
  | none => .error (outOfBounds i)

/-- The bytes at a position. -/
def getBlob (r : Row) (i : Nat) : Outcome (List UInt8) :=
  match r.get? i with
  | some (.blob b) => .ok b
  | some other => .error (expected "BLOB" other)
  | none => .error (outOfBounds i)

/-- Whether the value at a position is null; a missing value is not. -/
def isNull (r : Row) (i : Nat) : Bool :=
  match r.get? i with
  | some .null => true
  | _ => false

def count (r : Row) : Nat := r.values.length

end Row

end RecordMap
