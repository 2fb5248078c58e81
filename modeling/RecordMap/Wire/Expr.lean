import RecordMap.Wire.Spec
import RecordMap.Query.Compile
import RecordMap.Value.Coerce

/-!
# Host values and expressions on the wire

Host values and expressions are decoded against the request's table slots (for record
constants) and the identifiers generated so far. Every decoded object gets a fresh identity,
so two decodings of the same object are different objects.

A literal names the type it is given as; the value must be of that type (integers in its
range, doubles for reals), 32-bit reals are narrowed to single precision, and `utc` timestamps
are moved to offset zero.
-/

namespace RecordMap.Wire

open RecordMap.Numeral

/-- What decoding host values needs: the table slots and the identifiers generated so far. -/
structure Scope where
  tables : List TableDef := []
  generated : List Uuid := []
  deriving Inhabited

/-- Decoding that hands out fresh object identities. -/
abbrev Fresh (α : Type) := StateT Nat (Except Failure) α

def freshId : Fresh Nat := modifyGet fun n => (n, n + 1)

/-- A decoding step that needs no identities. -/
def lift {α : Type} (d : Decoded α) : Fresh α := StateT.lift d

/-- The table of a slot. -/
def Scope.table (s : Scope) (k : Nat) : Decoded TableDef :=
  match s.tables[k]? with
  | some t => pure t
  | none => malformed ("no table in slot " ++ toString k)

/-- The mapping of a slot's record type, built without flags. -/
def Scope.plainMapping (s : Scope) (k : Nat) : Decoded Mapping := do
  liftOutcome (Mapping.build (slotTypeName k) (← s.table k) CreateFlags.none)

/-- Decodes a host value. -/
def decodeHost (s : Scope) : Nat → Json → Fresh Host
  | 0, _ => lift (malformed "host value nested too deeply")
  | fuel + 1, j =>
    match j with
    | .obj fields =>
      if let some items := j.get? "list" then do
        let items ← lift (asArr items)
        pure (.list (← lift (items.mapM (decodeValue s.generated))))
      else if let some members := j.get? "object" then do
        let typeName := match j.get? "map" with
          | some (.str "plain") => "object"
          | _ => "map"
        match members with
        | .obj ms =>
          let decoded ← ms.mapM fun (k, v) => do pure (k, ← decodeHost s fuel v)
          let id ← freshId
          pure (.object id typeName decoded)
        | _ => lift (malformed "object members must be an object")
      else if let some r := j.get? "record" then do
        let k ← lift (asNat (← lift (field j "t")))
        let t ← lift (s.table k)
        let m ← lift (s.plainMapping k)
        let record ← lift (decodeRecord s.generated t r)
        let id ← freshId
        pure (.object id (slotTypeName k) (recordMembers m record))
      else
        let _ := fields
        (Host.scalar ·) <$> lift (decodeValue s.generated j)
    | other => (Host.scalar ·) <$> lift (decodeValue s.generated other)

/-- A literal given as the named type. -/
def decodeLiteral (s : Scope) (ty : String) (j : Json) : Fresh Host := do
  if ty == "host" then return ← decodeHost s 64 j
  let v ← lift (decodeValue s.generated j)
  let bad : Fresh Host := lift (malformed ("literal is not a " ++ ty))
  let intIn (w : IntWidth) : Fresh Host :=
    match v with
    | .int i => if w.admits i then pure (.scalar (.int i)) else bad
    | _ => bad
  match ty, v with
  | "bool", .bool _ => pure (.scalar v)
  | "i8", _ => intIn .i8
  | "i16", _ => intIn .i16
  | "i32", _ => intIn .i32
  | "i64", _ => intIn .i64
  | "u8", _ => intIn .u8
  | "u16", _ => intIn .u16
  | "u32", _ => intIn .u32
  | "f32", .float x => pure (.scalar (.float (narrowToSingle x)))
  | "f32", .int i => pure (.scalar (.float (narrowToSingle (floatOfInt i))))
  | "f64", .float _ => pure (.scalar v)
  | "f64", .int i => pure (.scalar (.float (floatOfInt i)))
  | "decimal", .decimal _ => pure (.scalar v)
  | "String", .text _ | "str", .text _ | "&String", .text _ => pure (.scalar v)
  | "bytes", .blob _ | "&[u8]", .blob _ => pure (.scalar v)
  | "naive", .timestamp _ => pure (.scalar v)
  | "fixed", .timestampTz _ => pure (.scalar v)
  | "utc", .timestampTz z => pure (.scalar (.timestampTz (Time.OffsetTimestamp.ofUtc z.utc)))
  | "delta", .interval _ => pure (.scalar v)
  | "uuid", .uuid _ => pure (.scalar v)
  | "option_i64", .null | "option_i64", .int _ => pure (.scalar v)
  | "option_str", .null | "option_str", .text _ => pure (.scalar v)
  | "owned", _ => pure (.scalar v)
  | _, _ => bad

/-- Decodes the items of an `is_in` test given as the named type. -/
def decodeItems (s : Scope) (ty : String) (items : List Json) : Fresh (List Value) :=
  items.mapM fun j => do
    let v ← lift (decodeValue s.generated j)
    match ty, v with
    | "owned", _ => pure v
    | "i64", .int _ => pure v
    | "str", .text _ => pure v
    | _, _ => lift (malformed ("item is not a " ++ ty))

/-- Decodes an expression. -/
def decodeExpr (s : Scope) : Nat → Json → Fresh Expr
  | 0, _ => lift (malformed "expression nested too deeply")
  | fuel + 1, j => do
    if let some p := j.get? "col" then return Expr.col (← lift (asStr p))
    if j.has "param" then return .parameter
    if let some c := j.get? "const" then return .constant (← decodeHost s 64 c)
    if let some m := j.get? "member" then
      return .member (← decodeExpr s fuel (← lift (field j "of"))) (← lift (asStr m))
    if let some o := j.get? "op" then
      let op ← match BinaryOp.ofName? (← lift (asStr o)) with
        | some op => pure op
        | none => lift (malformed "unknown operator")
      let l ← decodeExpr s fuel (← lift (field j "l"))
      let r ← decodeExpr s fuel (← lift (field j "r"))
      return .binary op l r
    if let some c := j.get? "call" then
      let name ← lift (asStr c)
      let object ← match optField j "object" with
        | some o => some <$> decodeExpr s fuel o
        | none => pure none
      let args ← match optField j "args" with
        | some a => (← lift (asArr a)).mapM (decodeExpr s fuel)
        | none => pure []
      return .call name object args
    if let some e := j.get? "cast" then
      let operand ← decodeExpr s fuel e
      let target := DataType.ofName (← lift (fieldStr j "to"))
      return .convert operand target
    if let some e := j.get? "not" then return .unary .not (← decodeExpr s fuel e)
    if let some e := j.get? "neg" then return .unary .neg (← decodeExpr s fuel e)
    if let some c := j.get? "cond" then
      match ← lift (asArr c) with
      | [t, a, b] =>
        return .conditional (← decodeExpr s fuel t) (← decodeExpr s fuel a) (← decodeExpr s fuel b)
      | _ => lift (malformed "cond needs three expressions")
    if let some v := j.get? "lit" then
      let ty ← lift (fieldStr j "as")
      return .constant (← decodeLiteral s ty v)
    if let some e := j.get? "is_in" then
      let subject ← decodeExpr s fuel e
      let ty := (j.get? "as" >>= Json.str?).getD "owned"
      let items ← decodeItems s ty (← lift (asArr (← lift (field j "items"))))
      return .call "contains" none [.constant (.list items), subject]
    lift (malformed "unknown expression")

end RecordMap.Wire
