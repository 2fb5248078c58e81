import RecordMap.Wire.Value
import RecordMap.Schema.Mapping

/-!
# Table specs and records on the wire

A table spec names the table, says whether it has no row identifier, and lists its columns:
a property, a field type (a leading `?` for optional), an optional storage name, and the
constraints in order. A record is an array of values in column order; each value is stored
into its field, and missing trailing values take the field's default.

The four table slots of a request are the record types `Rec<0>` to `Rec<3>`.
-/

namespace RecordMap.Wire

/-- The type name of a table slot's record type. -/
def slotTypeName (k : Nat) : String := "Rec<" ++ toString k ++ ">"

/-- Decodes one constraint. -/
def decodeConstraint (j : Json) : Decoded Constraint :=
  match j with
  | .str "pk" => pure .primaryKey
  | .str "auto" => pure .autoIncrement
  | .str "not_null" => pure .notNull
  | .str "indexed" => pure (.indexed {})
  | .str "unique" => pure (.indexed { unique := true })
  | .str "ignore" => pure .ignore
  | .obj _ =>
    if let some i := j.get? "index" then do
      match ← asArr i with
      | [n, o, u] =>
        let name ← match n with
          | .null => pure none
          | other => some <$> asStr other
        pure (.indexed { name, order := ← asInt o, unique := ← asBool u })
      | _ => malformed "invalid index constraint"
    else if let some c := j.get? "collate" then (.collate ·) <$> asStr c
    else if let some n := j.get? "max_length" then do
      let n ← asNat n
      if n < Nat.pow 2 32 then pure (.maxLength n) else malformed "max_length out of range"
    else malformed "unknown constraint"
  | _ => malformed "unknown constraint"

/-- Decodes one column declaration. -/
def decodeColumn (j : Json) : Decoded ColumnDef := do
  let property ← fieldStr j "prop"
  let ty ← fieldStr j "type"
  let field ← match FieldType.ofName? ty with
    | some f => pure f
    | none => malformed ("unknown field type " ++ ty)
  let storage ← match optField j "name" with
    | some n => some <$> asStr n
    | none => pure none
  let constraints ← match optField j "c" with
    | some c => (← asArr c).mapM decodeConstraint
    | none => pure []
  pure { property, storage, constraints, field }

/-- Decodes a table spec. -/
def decodeTable (j : Json) : Decoded TableDef := do
  let name ← fieldStr j "name"
  let withoutRowid ← match optField j "without_rowid" with
    | some b => asBool b
    | none => pure false
  let columns ← match optField j "columns" with
    | some c => (← asArr c).mapM decodeColumn
    | none => pure []
  pure { name, withoutRowid, columns }

/-- A record as its fields' values: each given value stored into its field, and the rest of
the fields at their defaults. -/
def decodeRecord (generated : List Uuid) (t : TableDef) (j : Json) : Decoded (List Value) := do
  let given ← asArr j
  let rec go : List ColumnDef → List Json → Decoded (List Value)
    | [], _ => pure []
    | c :: cs, [] => return c.field.default :: (← go cs [])
    | c :: cs, v :: vs => do
      let v ← decodeValue generated v
      let stored ← liftFault (c.field.accept v)
      return stored :: (← go cs vs)
  go t.columns given

def encodeRecord (record : List Value) : Json := .arr (record.map encodeValue)

/-- The members of a record as a host object: its mapped properties, first column first. -/
def recordMembers (m : Mapping) (record : List Value) : List (String × Host) :=
  (m.columns.map fun c => (c.property, Host.scalar (c.valueOf record))).reverse

end RecordMap.Wire
