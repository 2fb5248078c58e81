import RecordMap.Value.Debug

/-!
# Host values

A `Host` value is what an expression constant holds: a single value, a list of values, or an
object whose members are looked up by name. An object has an identity; copies of it share the
identity, and two objects are equal only when they have the same one, whatever their members.
Scalars and lists compare by value equality (`Value.same`).

An object's type name is `map` for string-keyed maps, `object` for plain member sources, and
the record type's name for records, whose members are their mapped properties.
-/

namespace RecordMap

/-- An expression constant. -/
inductive Host where
  | scalar (v : Value)
  | list (items : List Value)
  | object (id : Nat) (typeName : String) (members : List (String × Host))
  deriving Repr, Inhabited

namespace Host

def null : Host := .scalar .null

/-- Whether the value is the null scalar. -/
def isNull : Host → Bool
  | .scalar .null => true
  | _ => false

/-- The scalar, if the value is one. -/
def asScalar? : Host → Option Value
  | .scalar v => some v
  | _ => none

/-- The kind: the scalar's type name, `list`, or the object's type name. -/
def kind : Host → String
  | .scalar v => v.typeName
  | .list _ => "list"
  | .object _ n _ => n

/-- The member of an object by exact name; the last entry of that name counts. -/
def member? (h : Host) (name : String) : Option Host :=
  match h with
  | .object _ _ members => ((members.reverse.find? (·.1 == name)).map (·.2))
  | _ => none

/-- Host equality: scalars and lists by value, objects by identity. -/
def same : Host → Host → Bool
  | .scalar a, .scalar b => a.same b
  | .list a, .list b => Value.sameList a b
  | .object a _ _, .object b _ _ => a == b
  | _, _ => false

/-- Structural text: `Scalar(v)`, `List([v, …])` or `Object(type name)`. -/
def debugText : Host → String
  | .scalar v => "Scalar(" ++ v.debugText ++ ")"
  | .list items => "List(" ++ listText (items.map Value.debugText) ++ ")"
  | .object _ n _ => "Object(" ++ n ++ ")"

end Host

end RecordMap
