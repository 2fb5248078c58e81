import RecordMap.Schema.Field

/-!
# Table declarations

A `TableDef` is how a record type declares its table: a name, whether the table has no row
identifier, and one `ColumnDef` per field in field order. A column declaration has a property
name, an optional storage name (the property name when absent) and constraints in the order
they were declared. Where a constraint can occur more than once, the last collation and the
last length limit win, and all index memberships count, in order.
-/

namespace RecordMap

/-- Membership of a column in an index: the index name (derived from the table and column
when absent), the column's position in it, and whether the index is unique. -/
structure IndexAttr where
  name : Option String := none
  order : Int := 0
  unique : Bool := false
  deriving Repr, DecidableEq, Inhabited

/-- A column constraint. -/
inductive Constraint where
  | primaryKey
  | autoIncrement
  | notNull
  | indexed (attr : IndexAttr)
  | collate (name : String)
  | maxLength (n : Nat)
  | ignore
  deriving Repr, DecidableEq, Inhabited

/-- The kind of a constraint, its arguments forgotten. -/
inductive ConstraintKind where
  | primaryKey | autoIncrement | notNull | indexed | collate | maxLength | ignore
  deriving Repr, DecidableEq, Inhabited

/-- The kind of a constraint. -/
def Constraint.kind : Constraint → ConstraintKind
  | .primaryKey => .primaryKey
  | .autoIncrement => .autoIncrement
  | .notNull => .notNull
  | .indexed _ => .indexed
  | .collate _ => .collate
  | .maxLength _ => .maxLength
  | .ignore => .ignore

/-- The declaration of one field's column. -/
structure ColumnDef where
  property : String
  storage : Option String := none
  constraints : List Constraint := []
  field : FieldType
  deriving Repr, Inhabited

namespace ColumnDef

/-- The storage name: the one given, else the property name. -/
def name (c : ColumnDef) : String := c.storage.getD c.property

/-- Whether some constraint of that kind is declared. -/
def has (c : ColumnDef) (k : ConstraintKind) : Bool := c.constraints.any (·.kind == k)

/-- The last declared collation. -/
def collation (c : ColumnDef) : Option String :=
  c.constraints.reverse.findSome? fun
    | .collate n => some n
    | _ => none

/-- The last declared length limit. -/
def maxLen (c : ColumnDef) : Option Nat :=
  c.constraints.reverse.findSome? fun
    | .maxLength n => some n
    | _ => none

/-- The index memberships, in declaration order. -/
def indices (c : ColumnDef) : List IndexAttr :=
  c.constraints.filterMap fun
    | .indexed a => some a
    | _ => none

end ColumnDef

/-- A record type's table declaration. -/
structure TableDef where
  name : String
  withoutRowid : Bool := false
  columns : List ColumnDef
  deriving Repr, Inhabited

end RecordMap
