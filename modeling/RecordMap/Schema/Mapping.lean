import RecordMap.Schema.Table
import RecordMap.Text.Quoted

/-!
# Table mappings

A `Mapping` is what the library knows about a record type's table once its declaration has
been checked: the mapped columns (ignored fields dropped) with their resolved flags, the
primary key, and the statements derived from them.

`Mapping.build` follows the declaration and the creation flags. A column is the primary key
when declared so, or, with the implicit-key flag and no declared key, when its property is
`Id` in any case. It auto-increments when declared so, or when it is an integer key under the
auto-increment flag; an auto-incrementing identifier column is instead filled with a fresh
identifier. A column without index memberships gets one, under the implicit-index flag, when
it is not the key and its storage name ends in `Id` in any case. Columns are nullable unless
they are the key or declared not null. Building fails, with the first fault in column order,
on an unsupported field type or an auto-increment column that is not an integer key; then on
two keys; then on two storage names equal up to ASCII case.
-/

namespace RecordMap

open RecordMap.Text

/-- Creation flags: bit 1 an implicit `Id` key, bit 2 implicit indexes on `…Id` columns,
bit 4 auto-increment integer keys. -/
structure CreateFlags where
  bits : Nat
  deriving Repr, DecidableEq, Inhabited

namespace CreateFlags

def none : CreateFlags := ⟨0⟩

/-- Whether every bit of `other` is set. -/
def contains (f : CreateFlags) (other : Nat) : Bool := f.bits &&& other == other

def implicitPk : Nat := 1

def implicitIndex : Nat := 2

def autoIncPk : Nat := 4

end CreateFlags

/-- A mapped column. -/
structure Column where
  property : String
  name : String
  dataType : DataType
  nullable : Bool
  collation : Option String
  maxLength : Option Nat
  isPk : Bool
  isAutoInc : Bool
  isAutoGuid : Bool
  indices : List IndexAttr
  /-- The position of the field in the record. -/
  position : Nat
  /-- The field's type, for storing values into the record. -/
  field : FieldType
  deriving Repr, Inhabited

/-- A record type's checked table mapping. -/
structure Mapping where
  typeName : String
  tableName : String
  withoutRowid : Bool
  columns : List Column
  pk : Option Nat
  hasAutoIncPk : Bool
  getByPkSql : String
  deriving Repr, Inhabited

/-- The name of the implicit key property. -/
def implicitPkName : String := "Id"

/-- The suffix of implicitly indexed storage names. -/
def implicitIndexSuffix : String := "Id"

/-- Whether two texts are equal up to ASCII case. -/
def eqIgnoreAsciiCase (a b : String) : Bool :=
  a.toList.map Char.toLower == b.toList.map Char.toLower

/-- Whether `name` ends in `suffix` up to ASCII case, the cut falling between characters. -/
def endsWithIgnoreAsciiCase (name suffix : String) : Bool :=
  let n := name.toList
  let s := suffix.toList
  -- a cut inside a multi-byte character fails, as does a short name
  let bytes := name.utf8ByteSize
  let sufBytes := suffix.utf8ByteSize
  if bytes < sufBytes then false
  else
    let tail := n.drop (n.length - s.length)
    tail.foldl (fun k c => k + c.utf8Size) 0 == sufBytes && eqIgnoreAsciiCase (String.ofList tail) suffix

/-- The schema error of a field type the codec does not know. -/
def unsupportedField (property : String) (t : DataType) : Error :=
  .schema ("don't know about type " ++ t.name ++ " of property " ++ property)

namespace Column

/-- The column declaration of a `create table` or `alter table`: quoted name, type, then
`primary key`, `autoincrement`, `not null` and `collate` as they apply. An auto-increment
column is declared `integer` whatever its type. -/
def sqlDecl (c : Column) (ticks : Bool) : Outcome String := do
  let ty ← if c.isAutoInc then pure "integer"
    else match c.dataType.sqlType ticks c.maxLength with
      | some t => pure t
      | none => throw (unsupportedField c.property c.dataType)
  let decl := quoteIdentifier c.name ++ " " ++ ty
  let decl := if c.isPk then decl ++ " primary key" else decl
  let decl := if c.isAutoInc then decl ++ " autoincrement" else decl
  let decl := if !c.nullable then decl ++ " not null" else decl
  let decl := match c.collation with
    | some n => decl ++ " collate " ++ n
    | none => decl
  pure decl

/-- The column's value in a record given as its field values. -/
def valueOf (c : Column) (record : List Value) : Value := record.getD c.position .null

end Column

/-- Resolves one declared column against the flags. -/
def resolveColumn (table : String) (flags : CreateFlags) (explicitPk : Bool)
    (entry : Nat × ColumnDef) : Outcome Column := do
  let (position, def_) := entry
  let property := def_.property
  let dt := def_.field.dataType
  if !dt.isSupported then throw (unsupportedField property dt)
  let isPk := def_.has .primaryKey ||
    (!explicitPk && flags.contains CreateFlags.implicitPk && eqIgnoreAsciiCase property implicitPkName)
  let isAuto := def_.has .autoIncrement ||
    (isPk && flags.contains CreateFlags.autoIncPk && dt.isInteger)
  let isAutoGuid := isAuto && dt == .uuid
  let isAutoInc := isAuto && !isAutoGuid
  if isAutoInc && !isPk then
    throw (.schema (table ++ "." ++ property ++
      ": auto-increment requires the column to be the primary key"))
  if isAutoInc && !dt.isInteger then
    throw (.schema (table ++ "." ++ property ++
      ": auto-increment requires an integer column, found " ++ dt.name))
  let name := def_.name
  let indices := def_.indices
  let indices := if indices.isEmpty && !isPk && flags.contains CreateFlags.implicitIndex &&
      endsWithIgnoreAsciiCase name implicitIndexSuffix then [{}] else indices
  pure { property, name, dataType := dt, nullable := !(isPk || def_.has .notNull),
         collation := def_.collation, maxLength := def_.maxLen, isPk, isAutoInc, isAutoGuid,
         indices, position, field := def_.field }

/-- The first storage name that repeats an earlier one up to ASCII case. -/
def firstRepeatedName : List String → List String → Option String
  | _, [] => none
  | seen, n :: rest =>
    if seen.any (eqIgnoreAsciiCase · n) then some n else firstRepeatedName (seen ++ [n]) rest

namespace Mapping

/-- Checks a table declaration against the flags. -/
def build (typeName : String) (t : TableDef) (flags : CreateFlags) : Outcome Mapping := do
  let fields := t.columns.zipIdx.map (fun (c, i) => (i, c)) |>.filter fun (_, c) => !c.has .ignore
  let explicitPk := fields.any fun (_, c) => c.has .primaryKey
  let columns ← fields.mapM (resolveColumn t.name flags explicitPk)
  let pks := (columns.zipIdx.filter fun (c, _) => c.isPk).map (·.2)
  if pks.length > 1 then throw (.schema (t.name ++ " declares more than one primary key"))
  if let some n := firstRepeatedName [] (columns.map (·.name)) then
    throw (.schema (t.name ++ " declares column " ++ n ++ " more than once"))
  let pk := pks.head?
  let pkColumn := pk.bind (columns[·]?)
  let hasAutoIncPk := (pkColumn.map (·.isAutoInc)).getD false
  let getByPkSql := match pkColumn with
    | some c => "select * from " ++ quoteIdentifier t.name ++ " where " ++
        quoteIdentifier c.name ++ " = ?"
    | none => "select * from " ++ quoteIdentifier t.name ++ " limit 1"
  pure { typeName, tableName := t.name, withoutRowid := t.withoutRowid, columns, pk,
         hasAutoIncPk, getByPkSql }

def pkColumn (m : Mapping) : Option Column := m.pk.bind (m.columns[·]?)

/-- The columns a plain insert binds: all but the auto-increment one. -/
def insertColumns (m : Mapping) : List Column := m.columns.filter (!·.isAutoInc)

/-- The columns an insert-or-replace binds: all of them. -/
def replaceColumns (m : Mapping) : List Column := m.columns

/-- The column of a storage name, exactly. -/
def findColumn (m : Mapping) (name : String) : Option Column :=
  m.columns.find? (·.name == name)

/-- The position of the column of a storage name: exactly, else up to ASCII case. -/
def findColumnIndex (m : Mapping) (name : String) : Option Nat :=
  (m.columns.findIdx? (·.name == name)).orElse fun _ =>
    m.columns.findIdx? (eqIgnoreAsciiCase ·.name name)

/-- The column of a property name. -/
def findByProperty (m : Mapping) (property : String) : Option Column :=
  m.columns.find? (·.property == property)

end Mapping

/-- How an insert treats an existing row with the same key. -/
inductive InsertMode where
  | plain
  | replace
  deriving Repr, DecidableEq, Inhabited

/-- The statement keyword of a mode. -/
def InsertMode.keyword : InsertMode → String
  | .plain => "insert into"
  | .replace => "insert or replace into"

/-- The insert statement of a mapping: the bound columns and one placeholder each, or
`default values` when the only column is the auto-increment key. -/
def Mapping.insertSql (m : Mapping) (mode : InsertMode) : String :=
  let columns := match mode with
    | .plain => m.insertColumns
    | .replace => m.replaceColumns
  let table := quoteIdentifier m.tableName
  let onlyAutoInc := match m.columns with
    | [c] => c.isAutoInc
    | _ => false
  if columns.isEmpty && onlyAutoInc then mode.keyword ++ " " ++ table ++ " default values"
  else
    mode.keyword ++ " " ++ table ++ "(" ++ ",".intercalate (columns.map (quoteIdentifier ·.name)) ++
      ") values (" ++ ",".intercalate (columns.map fun _ => "?") ++ ")"

end RecordMap
