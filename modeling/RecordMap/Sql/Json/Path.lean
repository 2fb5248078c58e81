import RecordMap.Sql.Json.Node

/-!
# JSON paths and edits

A path is read after its leading `$`, one step at a time: `.key` or `."key"` selects the first
member of an object whose key is the same label (escapes read on either side), `[N]` selects an
array item, `[#]` the place after the last item and `[#-N]` the item `N` from the end.

`JsonNode.locate` follows a path through a node and may change what it finds: remove it,
replace it, or, for `insert` and `set`, add a member or item at a missing last step, building
any objects and arrays the rest of the path asks for. The outcome is the node found, or that
nothing is there, or that the path is malformed. A step is checked against the node it applies
to: a key step on a node that is not an object finds nothing once its key is read, and an index
step on a node that is not an array finds nothing before its index is read, so a malformed rest
of a path is only reported where the path reaches it.

`JsonNode.mergePatch` applies a merge patch: a patch that is not an object replaces the target;
otherwise each of its members, in order, removes (when null), merges into or adds a member of
the target, which becomes an object first.
-/

namespace RecordMap.Sql

/-- What following a path found. -/
inductive PathOutcome where
  | found (node : JsonNode)
  | notFound
  | badPath
  deriving Inhabited

/-- What to do where a path leads. -/
inductive JsonEdit where
  | read
  | remove
  | replace (value : JsonNode)
  | insert (value : JsonNode)
  | set (value : JsonNode)
  deriving Inhabited

/-- Whether an edit may add what is missing. -/
def JsonEdit.adds : JsonEdit → Bool
  | .insert _ | .set _ => true
  | _ => false

/-- The value of some decimal digits. -/
def digitsValue (ds : Bytes) : Nat := ds.foldl (fun a d => 10 * a + (d.toNat - 48)) 0

/-- A key step's key, after its dot: the key's bytes, whether it holds no escapes, and the rest
of the path; none when the key is empty or its quotes do not close. -/
def keyStep (rest : Bytes) : Option (Bytes × Bool × Bytes) :=
  match rest with
  | 34 :: body =>
    let key := body.takeWhile (· != 34)
    if key.length == body.length then none
    else some (key, !key.contains 92, body.drop (key.length + 1))
  | _ =>
    let key := rest.takeWhile fun c => c != 46 && c != 91
    if key.isEmpty then none else some (key, true, rest.drop key.length)

/-- An index step's index, after its bracket, for an array of `count` items: the index and the
rest of the path; `none` for a path that is malformed, `some none` for an index before the first
item. -/
def indexStep (rest : Bytes) (count : Nat) : Option (Option (Nat × Bytes)) :=
  let digits := rest.takeWhile isDigitByte
  let after := rest.drop digits.length
  if !digits.isEmpty && after.head? == some 93 then some (some (digitsValue digits, after.drop 1))
  else
    match rest with
    | 35 :: 45 :: d :: more =>
      if isDigitByte d then
        let ds := (d :: more).takeWhile isDigitByte
        let after := (d :: more).drop ds.length
        let nn := digitsValue ds
        if nn > count then some none
        else if after.head? == some 93 then some (some (count - nn, after.drop 1))
        else none
      else if (45 :: d :: more).head? == some 93 then some (some (count, (45 :: d :: more).drop 1))
      else none
    | 35 :: more =>
      if more.head? == some 93 then some (some (count, more.drop 1)) else none
    | _ => none

/-- The place of the first member whose key is the same label as a key. -/
def findMember (members : List (JsonKey × JsonNode)) (key : Bytes) (raw : Bool) : Option Nat :=
  members.findIdx? fun (k, _) => sameLabel key raw k.text k.form.unescaped

mutual

/-- Follows a path from a node, making an edit where it leads: the outcome and what the node
becomes (none when it is removed). -/
def JsonNode.locate : Nat → JsonEdit → JsonNode → Bytes → PathOutcome × Option JsonNode
  | 0, _, node, _ => (.notFound, some node)
  | fuel + 1, edit, node, path =>
    match path with
    | [] =>
      match edit with
      | .read | .insert _ => (.found node, some node)
      | .remove => (.found node, none)
      | .replace v | .set v => (.found node, some v)
    | 46 :: rest =>
      match keyStep rest with
      | none => (.badPath, some node)
      | some (key, raw, after) =>
        match node with
        | .object members =>
          match findMember members key raw with
          | some idx =>
            let (k, v) := members.getD idx default
            let (outcome, v') := JsonNode.locate fuel edit v after
            let members := match v' with
              | some nv => members.set idx (k, nv)
              | none => members.eraseIdx idx
            (outcome, some (.object members))
          | none =>
            if edit.adds then
              match JsonNode.build fuel edit after with
              | (.found _, some v) =>
                let k : JsonKey := ⟨if raw then .raw else .loose, key⟩
                (.found v, some (.object (members ++ [(k, v)])))
              | (outcome, _) => (outcome, some node)
            else (.notFound, some node)
        | _ => (.notFound, some node)
    | 91 :: rest =>
      match node with
      | .array items =>
        match indexStep rest items.length with
        | none => (.badPath, some node)
        | some none => (.notFound, some node)
        | some (some (k, after)) =>
          if k < items.length then
            let (outcome, v') := JsonNode.locate fuel edit (items.getD k default) after
            let items := match v' with
              | some nv => items.set k nv
              | none => items.eraseIdx k
            (outcome, some (.array items))
          else if k == items.length && edit.adds then
            match JsonNode.build fuel edit after with
            | (.found _, some v) => (.found v, some (.array (items ++ [v])))
            | (outcome, _) => (outcome, some node)
          else (.notFound, some node)
      | _ => (.notFound, some node)
    | _ => (.badPath, some node)

/-- The value to add for the rest of a path: the edit's value, or an empty object or array
that the rest of the path is followed into. -/
def JsonNode.build : Nat → JsonEdit → Bytes → PathOutcome × Option JsonNode
  | _, .insert v, [] | _, .set v, [] => (.found v, some v)
  | 0, _, _ => (.notFound, none)
  | fuel + 1, edit, rest =>
    let start : JsonNode := if rest.head? == some 46 then .object [] else .array []
    JsonNode.locate fuel edit start rest

end

/-- A merge patch applied to a target. -/
def JsonNode.mergePatch : Nat → JsonNode → JsonNode → JsonNode
  | 0, target, _ => target
  | fuel + 1, target, patch =>
    match patch with
    | .object patchMembers =>
      let start := match target with
        | .object m => m
        | _ => []
      let step (acc : List (JsonKey × JsonNode)) (kv : JsonKey × JsonNode) : List (JsonKey × JsonNode) :=
        let (k, v) := kv
        let isNull := match v with
          | .null => true
          | _ => false
        match findMember acc k.text k.form.unescaped with
        | some idx =>
          if isNull then acc.eraseIdx idx
          else
            let (tk, tv) := acc.getD idx default
            acc.set idx (tk, JsonNode.mergePatch fuel tv v)
        | none =>
          if isNull then acc
          else
            match v with
            | .object _ => acc ++ [(k, JsonNode.mergePatch fuel .null v)]
            | _ => acc ++ [(k, v)]
      .object (patchMembers.foldl step start)
    | other => other

end RecordMap.Sql
