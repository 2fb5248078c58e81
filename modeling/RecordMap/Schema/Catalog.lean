import RecordMap.Schema.Mapping

/-!
# Mapping catalogs

A `Catalog` remembers the mapping of each record type it was asked for. The first request
for a type builds the mapping with the flags it gives and keeps it; every later request returns
the kept mapping, whatever flags it gives, until the catalog is cleared. A mapping that fails
to build is not kept. Each kept mapping has an identity, so that a caller can tell whether two
answers are the same kept mapping.
-/

namespace RecordMap

/-- A kept mapping with its identity. -/
structure CatalogEntry where
  slot : Nat
  mapping : Mapping
  id : Nat
  deriving Repr, Inhabited

/-- The mappings kept so far, by record type (a table slot). -/
structure Catalog where
  entries : List CatalogEntry := []
  nextId : Nat := 0
  deriving Repr, Inhabited

namespace Catalog

/-- The kept mapping of a record type. -/
def get? (c : Catalog) (slot : Nat) : Option CatalogEntry := c.entries.find? (·.slot == slot)

/-- The mapping of a record type: the kept one, or a new one built with these flags and kept. -/
def getMapping (c : Catalog) (slot : Nat) (typeName : String) (t : TableDef) (flags : CreateFlags) :
    Outcome (CatalogEntry × Catalog) :=
  match c.get? slot with
  | some e => .ok (e, c)
  | none => do
    let m ← Mapping.build typeName t flags
    let e : CatalogEntry := ⟨slot, m, c.nextId⟩
    pure (e, { entries := c.entries ++ [e], nextId := c.nextId + 1 })

def size (c : Catalog) : Nat := c.entries.length

def clear (c : Catalog) : Catalog := { c with entries := [] }

/-- Whether two texts are in order by their characters. -/
def textLe (a b : String) : Bool := decide (a ≤ b)

/-- The kept mappings' table names, sorted. -/
def tableNames (c : Catalog) : List String :=
  (c.entries.map (·.mapping.tableName)).mergeSort textLe

end Catalog

end RecordMap
