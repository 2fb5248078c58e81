import RecordMap.Schema.Mapping
import RecordMap.Value.Debug

/-!
# Structural texts of declarations and mappings

Declarations and mappings are written in structural form, each by its type name and named
fields: `ColumnDef { property: "Id", name: None, constraints: [PrimaryKey] }`,
`TableDef { … }` with the storage names of its columns, and `TableMapping { … }` with each
`Column { … }`, where `..` marks the fields that the form leaves out.
-/

namespace RecordMap

open RecordMap.Text

/-- Structural text of an optional text. -/
def optionDebug : Option String → String
  | some s => "Some(" ++ debugQuote s ++ ")"
  | none => "None"

/-- Structural text of an index membership. -/
def IndexAttr.debugText (a : IndexAttr) : String :=
  "IndexedAttr \x7b name: " ++ optionDebug a.name ++ ", order: " ++ toString a.order ++
    ", unique: " ++ (if a.unique then "true" else "false") ++ " \x7d"

/-- Structural text of a constraint. -/
def Constraint.debugText : Constraint → String
  | .primaryKey => "PrimaryKey"
  | .autoIncrement => "AutoIncrement"
  | .notNull => "NotNull"
  | .indexed a => "Indexed(" ++ a.debugText ++ ")"
  | .collate n => "Collate(" ++ debugQuote n ++ ")"
  | .maxLength n => "MaxLength(" ++ toString n ++ ")"
  | .ignore => "Ignore"

/-- Structural text of a column declaration. -/
def ColumnDef.debugText (c : ColumnDef) : String :=
  "ColumnDef \x7b property: " ++ debugQuote c.property ++ ", name: " ++ optionDebug c.storage ++
    ", constraints: " ++ listText (c.constraints.map Constraint.debugText) ++ " \x7d"

/-- Structural text of a table declaration. -/
def TableDef.debugText (t : TableDef) : String :=
  "TableDef \x7b name: " ++ debugQuote t.name ++ ", without_rowid: " ++
    (if t.withoutRowid then "true" else "false") ++ ", columns: " ++
    listText (t.columns.map fun c => debugQuote c.name) ++ " \x7d"

def boolText (b : Bool) : String := if b then "true" else "false"

/-- Structural text of a mapped column. -/
def Column.debugText (c : Column) : String :=
  "Column \x7b property_name: " ++ debugQuote c.property ++ ", name: " ++ debugQuote c.name ++
    ", data_type: " ++ c.dataType.variantName ++ ", nullable: " ++ boolText c.nullable ++
    ", is_pk: " ++ boolText c.isPk ++ ", is_auto_inc: " ++ boolText c.isAutoInc ++
    ", is_auto_guid: " ++ boolText c.isAutoGuid ++ ", .. \x7d"

/-- Structural text of a mapping. -/
def Mapping.debugText (m : Mapping) : String :=
  "TableMapping \x7b type_name: " ++ debugQuote m.typeName ++ ", table_name: " ++
    debugQuote m.tableName ++ ", columns: " ++ listText (m.columns.map Column.debugText) ++
    ", has_auto_inc_pk: " ++ boolText m.hasAutoIncPk ++ ", .. \x7d"

end RecordMap
