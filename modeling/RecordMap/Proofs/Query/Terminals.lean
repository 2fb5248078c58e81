import RecordMap.Proofs.Database.Streaming
import RecordMap.Proofs.Query.Builder

/-!
# The scalar terminals run selects of their own

`count`, `firstOrDefault`, `first` and `elementAt` do not read the records `toList` reads: each
runs a select of its own over the same source, the query's table, where clause and orderings
(`TableQuery.pagedSelect`), with a paging of its own. `toList` and `count` keep the query's limit
and offset (`TableQuery.generate_eq_pagedSelect`); `firstOrDefault` and `first` replace the limit
by 1 and keep the offset (`TableQuery.take_generate`); `elementAt i` replaces both, by 1 and `i`
(`TableQuery.skip_take_generate`). `count` reads the first value of the first row its select
hands out, or 0 when it hands out none (`count_of_first_row`, `count_of_no_row`).

An engine that answers as SQL does reads the select of every column as the records `base` the
where clause keeps, in the order of the orderings, with the offset skipped and at most the limit
kept (`SelectsPage`), and hands out `count(*)` as one row holding their number, paged the same way
(`CountsPage`). There the terminals are views of `base`, not of `toList`
(`scalar_terminals_page_alone`): `count` is its length, or 0 once an offset or a limit of 0 drops
the aggregate's row; `firstOrDefault` is the first record past the offset, whatever the limit;
`elementAt i` is the record at `i` of them all, whatever the paging. Only for a query with neither
a limit nor an offset are these the length, the first record and the records of `toList`.
-/

namespace RecordMap

open RecordMap.Sql (Datum)
open RecordMap.Numeral (IntWidth)
open RecordMap.Text

/-- SQL's paging of rows: the first `offset` are skipped, then at most `limit` are kept. -/
def sliceRows {α : Type} (limit offset : Option Nat) (rows : List α) : List α :=
  match limit with
  | some l => (rows.drop (offset.getD 0)).take l
  | none => rows.drop (offset.getD 0)

@[simp] theorem sliceRows_none_none {α : Type} (rows : List α) : sliceRows none none rows = rows :=
  rfl

theorem head?_sliceRows_one {α : Type} (offset : Option Nat) (rows : List α) :
    (sliceRows (some 1) offset rows).head? = (rows.drop (offset.getD 0)).head? := by
  simp [sliceRows, List.head?_take]

theorem sliceRows_single {α : Type} (limit offset : Option Nat) (row : α) :
    sliceRows limit offset [row] =
      if limit = some 0 ∨ 0 < offset.getD 0 then [] else [row] := by
  cases limit with
  | none =>
    cases h : offset.getD 0 <;> simp [sliceRows, h]
  | some l =>
    cases h : offset.getD 0 <;> cases l <;> simp [sliceRows, h]

/-- The record a terminal that needs one gives: the record, or `NotFound` naming the query's
table. -/
def TableQuery.found (q : TableQuery) : Option (List Value) → Outcome (List Value)
  | some r => .ok r
  | none => .error (.notFound ("query on " ++ q.mapping.tableName ++ " returned no rows"))

namespace Db

/-- `count` reads the first value of the first row its select hands out, as a 64-bit integer;
the rows after it, and a step failing after them, are never looked at. -/
theorem count_of_first_row {c : Nat} {q : TableQuery} {cmd : Command} {b : Bound}
    {w w₁ w₂ : World} {n : Int} {rest : List Datum} {more : List (List Datum)}
    {failure : Option Error} (hn : IntWidth.i64.admits n = true)
    (hg : q.generate "count(*)" = .ok cmd) (hp : prepare c cmd w = .ok b w₁)
    (hs : steps c b w₁ = .ok ((.integer n :: rest) :: more, failure) w₂) :
    count c q w = .ok n w₂ := by
  unfold count executeScalar
  rw [hg, show ofOutcome (Except.ok cmd) = (pure cmd : Db Command) from rfl, pure_bind]
  simp only [bind_assoc]
  rw [bind_of_eq_ok _ hp, bind_of_eq_ok _ hs]
  have hacc : countField.accept (.int n) = .ok (.int n) := by
    simpa [countField, FieldType.accept, FieldKind.accept, DataType.width] using hn
  dsimp only
  rw [List.headD_cons, show readColumn (.integer n) countField.dataType = .ok (.int n) from rfl,
    show ofTyped (.ok (Value.int n)) = (pure (.int n) : Db Value) from rfl, pure_bind, hacc]
  rfl

theorem count_of_no_row {c : Nat} {q : TableQuery} {cmd : Command} {b : Bound}
    {w w₁ w₂ : World} (hg : q.generate "count(*)" = .ok cmd) (hp : prepare c cmd w = .ok b w₁)
    (hs : steps c b w₁ = .ok ([], none) w₂) : count c q w = .ok 0 w₂ := by
  unfold count executeScalar
  rw [hg, show ofOutcome (Except.ok cmd) = (pure cmd : Db Command) from rfl, pure_bind]
  simp only [bind_assoc]
  rw [bind_of_eq_ok _ hp, bind_of_eq_ok _ hs]
  rfl

theorem firstOrDefault_of_toList {c : Nat} {q : TableQuery} {w w' : World}
    {rs : List (List Value)} (h : toList c (q.take 1) w = .ok rs w') :
    firstOrDefault c q w = .ok rs.head? w' := by
  unfold firstOrDefault
  rw [bind_of_eq_ok _ h]
  rfl

theorem first_of_toList {c : Nat} {q : TableQuery} {w w' : World} {rs : List (List Value)}
    (h : toList c (q.take 1) w = .ok rs w') :
    first c q w = ofOutcome (q.found rs.head?) w' := by
  unfold first
  rw [bind_of_eq_ok _ (firstOrDefault_of_toList h)]
  cases rs.head? <;> rfl

end Db

namespace TableQuery

/-- The select of `L` over the records of `q`'s table that its where clause, compiled to `clause`
binding `args`, keeps, in the order of its orderings, paged by `limit` and `offset`. -/
def pagedSelect (q : TableQuery) (clause : String) (args : List Host) (L : String)
    (limit offset : Option Nat) : Command :=
  ⟨"select " ++ L ++ " from " ++ quoteIdentifier q.mapping.tableName ++ clause ++
    orderByClause q.state.orderings ++ limitClause limit offset, args.map fun h => ⟨none, h, 0⟩⟩

section Paging

variable {q : TableQuery} {clause : String} {args : List Host}

/-- The statement of a query is the select over its source with its own limit and offset. -/
theorem generate_eq_pagedSelect (hj : q.state.join = none)
    (hw : whereClause q.mapping q.state.predicate = .ok (clause, args)) (L : String) :
    q.generate L = .ok (q.pagedSelect clause args L q.state.limit q.state.offset) :=
  generate_eq_ok_iff.2 ⟨hj, clause, args, hw, rfl⟩

theorem take_generate (hj : q.state.join = none)
    (hw : whereClause q.mapping q.state.predicate = .ok (clause, args)) (n : Nat) (L : String) :
    (q.take n).generate L = .ok (q.pagedSelect clause args L (some n) q.state.offset) :=
  generate_eq_pagedSelect (q := q.take n) hj hw L

theorem skip_take_generate (hj : q.state.join = none)
    (hw : whereClause q.mapping q.state.predicate = .ok (clause, args)) (i n : Nat) (L : String) :
    ((q.skip i).take n).generate L = .ok (q.pagedSelect clause args L (some n) (some i)) :=
  generate_eq_pagedSelect (q := (q.skip i).take n) hj hw L

end Paging

end TableQuery

/-- The engine reads the select of every column over `q`'s source, paged by `limit` and `offset`,
as SQL does: the records `base` its where clause keeps, in the order of its orderings, with the
first `offset` skipped and at most `limit` kept. -/
def SelectsPage (c : Nat) (q : TableQuery) (clause : String) (args : List Host)
    (base : List (List Value)) (w : World) (limit offset : Option Nat) : Prop :=
  ∃ w', Db.executeQuery c q.recordType (q.pagedSelect clause args "*" limit offset) w =
    .ok (sliceRows limit offset base) w'

/-- The engine answers `count(*)` over `q`'s source, paged by `limit` and `offset`, as SQL does:
the aggregate's one row, holding the number `n` of records the where clause keeps, is paged like
any other, and no step fails. -/
def CountsPage (c : Nat) (q : TableQuery) (clause : String) (args : List Host) (n : Int)
    (w : World) (limit offset : Option Nat) : Prop :=
  ∃ b w₁ w₂, Db.prepare c (q.pagedSelect clause args "count(*)" limit offset) w = .ok b w₁ ∧
    Db.steps c b w₁ = .ok (sliceRows limit offset [[.integer n]], none) w₂

namespace Db

section Paging

variable {c : Nat} {q : TableQuery} {clause : String} {args : List Host} {w : World}
  {base : List (List Value)}

theorem toList_of_selectsPage {q' : TableQuery} {limit offset : Option Nat}
    (h : SelectsPage c q clause args base w limit offset)
    (hg : q'.generate "*" = .ok (q.pagedSelect clause args "*" limit offset))
    (hrt : q'.recordType = q.recordType) :
    ∃ w', toList c q' w = .ok (sliceRows limit offset base) w' := by
  obtain ⟨w', hq⟩ := h
  refine ⟨w', ?_⟩
  unfold toList
  rw [hg, show ofOutcome (Except.ok (q.pagedSelect clause args "*" limit offset)) =
    (pure (q.pagedSelect clause args "*" limit offset) : Db Command) from rfl, pure_bind, hrt]
  exact hq

variable (hj : q.state.join = none)
  (hw : whereClause q.mapping q.state.predicate = .ok (clause, args))
include hj hw

theorem count_of_countsPage {n : Int} (hfits : IntWidth.i64.admits n = true)
    (h : CountsPage c q clause args n w q.state.limit q.state.offset) :
    ∃ w', count c q w =
      .ok (if q.state.limit = some 0 ∨ 0 < q.state.offset.getD 0 then 0 else n) w' := by
  obtain ⟨b, w₁, w₂, hp, hs⟩ := h
  have hg := TableQuery.generate_eq_pagedSelect hj hw "count(*)"
  -- the aggregate's one row survives the paging or is dropped whole
  rw [sliceRows_single] at hs
  split
  · rw [if_pos ‹_›] at hs
    exact ⟨w₂, count_of_no_row hg hp hs⟩
  · rw [if_neg ‹_›] at hs
    exact ⟨w₂, count_of_first_row hfits hg hp hs⟩

theorem firstOrDefault_of_selectsPage (h : SelectsPage c q clause args base w (some 1) q.state.offset) :
    ∃ w', firstOrDefault c q w = .ok (base.drop (q.state.offset.getD 0)).head? w' := by
  obtain ⟨w', hl⟩ := toList_of_selectsPage h (TableQuery.take_generate hj hw 1 "*") rfl
  exact ⟨w', by rw [firstOrDefault_of_toList hl, head?_sliceRows_one]⟩

theorem first_of_selectsPage (h : SelectsPage c q clause args base w (some 1) q.state.offset) :
    ∃ w', first c q w = ofOutcome (q.found (base.drop (q.state.offset.getD 0)).head?) w' := by
  obtain ⟨w', hl⟩ := toList_of_selectsPage h (TableQuery.take_generate hj hw 1 "*") rfl
  exact ⟨w', by rw [first_of_toList hl, head?_sliceRows_one]⟩

theorem elementAt_of_selectsPage {index : Nat}
    (h : SelectsPage c q clause args base w (some 1) (some index)) :
    ∃ w', elementAt c q index w = ofOutcome (q.found base[index]?) w' := by
  -- `elementAt` limits the skipped query to 1 before `first` does so again
  obtain ⟨w', hl⟩ := toList_of_selectsPage h
    (TableQuery.generate_eq_pagedSelect (q := ((q.skip index).take 1).take 1) hj hw "*") rfl
  refine ⟨w', ?_⟩
  unfold elementAt
  rw [first_of_toList hl, head?_sliceRows_one, Option.getD_some, List.head?_drop]
  -- paging keeps the mapping, so the `NotFound` text names the same table
  rfl

end Paging

theorem table_state {c : Nat} {rt : RecordType} {w w' : World} {q : TableQuery}
    (h : table c rt w = .ok q w') : q.state = {} := by
  unfold table at h
  cases hm : mapping c rt w with
  | ok m w₁ =>
    rw [bind_of_eq_ok _ hm] at h
    cases h
    rfl
  | error e w₁ =>
    rw [bind_of_eq_error _ hm] at h
    cases h

end Db

/-- On an engine answering as SQL does, the scalar terminals are views of the records `base` the
where clause keeps, each through the paging of its own select: `toList` and `count` keep the
query's limit and offset, so `count` is the number of records, or 0 once a limit of 0 or a
positive offset drops the aggregate's row; `firstOrDefault` and `first` give the first record past
the query's offset, whatever its limit; `elementAt index` gives the record at `index` of them all,
whatever the query's limit and offset. Only for a query with neither are these the length, the
first record and the records of `toList`. -/
theorem scalar_terminals_page_alone (c : Nat) (q : TableQuery) (index : Nat) (w : World)
    (base : List (List Value)) {clause : String} {args : List Host} (hj : q.state.join = none)
    (hw : whereClause q.mapping q.state.predicate = .ok (clause, args))
    (hfits : IntWidth.i64.admits base.length = true) :
    (SelectsPage c q clause args base w q.state.limit q.state.offset →
      ∃ w', Db.toList c q w = .ok (sliceRows q.state.limit q.state.offset base) w') ∧
    (CountsPage c q clause args base.length w q.state.limit q.state.offset →
      ∃ w', Db.count c q w =
        .ok (if q.state.limit = some 0 ∨ 0 < q.state.offset.getD 0 then 0 else (base.length : Int))
          w') ∧
    (SelectsPage c q clause args base w (some 1) q.state.offset →
      (∃ w', Db.firstOrDefault c q w = .ok (base.drop (q.state.offset.getD 0)).head? w') ∧
      ∃ w', Db.first c q w = Db.ofOutcome (q.found (base.drop (q.state.offset.getD 0)).head?) w') ∧
    (SelectsPage c q clause args base w (some 1) (some index) →
      ∃ w', Db.elementAt c q index w = Db.ofOutcome (q.found base[index]?) w') ∧
    (q.state.limit = none → q.state.offset = none →
      SelectsPage c q clause args base w none none →
      CountsPage c q clause args base.length w none none →
      SelectsPage c q clause args base w (some 1) none →
      SelectsPage c q clause args base w (some 1) (some index) →
      ∃ rs w₀, Db.toList c q w = .ok rs w₀ ∧
        (∃ w', Db.count c q w = .ok (rs.length : Int) w') ∧
        (∃ w', Db.firstOrDefault c q w = .ok rs.head? w') ∧
        (∃ w', Db.first c q w = Db.ofOutcome (q.found rs.head?) w') ∧
        ∃ w', Db.elementAt c q index w = Db.ofOutcome (q.found rs[index]?) w') := by
  have hlist : SelectsPage c q clause args base w q.state.limit q.state.offset →
      ∃ w', Db.toList c q w = .ok (sliceRows q.state.limit q.state.offset base) w' :=
    fun h => Db.toList_of_selectsPage h (TableQuery.generate_eq_pagedSelect hj hw "*") rfl
  refine ⟨hlist, Db.count_of_countsPage hj hw hfits,
    fun h => ⟨Db.firstOrDefault_of_selectsPage hj hw h, Db.first_of_selectsPage hj hw h⟩,
    Db.elementAt_of_selectsPage hj hw, fun hl ho hall hcount hone hat => ?_⟩
  -- with neither a limit nor an offset, `toList` reads `base` itself
  rw [hl, ho] at hlist
  obtain ⟨w₀, hbase⟩ := hlist hall
  rw [sliceRows_none_none] at hbase
  have hstart : q.state.offset.getD 0 = 0 := by rw [ho, Option.getD_none]
  obtain ⟨w₁, hc⟩ := Db.count_of_countsPage hj hw hfits (by rw [hl, ho]; exact hcount)
  obtain ⟨w₂, hd⟩ := Db.firstOrDefault_of_selectsPage hj hw (by rw [ho]; exact hone)
  obtain ⟨w₃, hf⟩ := Db.first_of_selectsPage hj hw (by rw [ho]; exact hone)
  rw [hstart, List.drop_zero] at hd hf
  refine ⟨base, w₀, hbase, ⟨w₁, ?_⟩, ⟨w₂, hd⟩, ⟨w₃, hf⟩, Db.elementAt_of_selectsPage hj hw hat⟩
  simpa [hl, hstart] using hc

/-- A record type with one text column and no key: its table has no index, so every select
scans it. -/
def labelType : RecordType :=
  { id := 0, name := "Label", table :=
    { name := "label", columns := [{ property := "Text", field := ⟨.string, true⟩ }] } }

/-- A database holding three labels, "a" to "c", in that order. -/
def threeLabelsWorld : World :=
  Db.finalWorld ((do
    let _ ← Db.createTableWith 0 labelType .none
    let _ ← Db.execute 0 "insert into \"label\" values ('a'), ('b'), ('c')" []
    pure ()) memoryWorld)

/-- The engine pages the labels as SQL does: over all three, one to a page, the page past the
first holds the second label and the page from the start the first, and `count(*)` past the
first row hands out no row and no failed step. -/
def labelPageRuns : Bool :=
  match Db.table 0 labelType threeLabelsWorld with
  | .ok q w =>
    (match Db.executeQuery 0 q.recordType (q.pagedSelect "" [] "*" (some 1) (some 1)) w with
      | .ok [[.text "b"]] _ => true
      | _ => false) &&
    (match Db.executeQuery 0 q.recordType (q.pagedSelect "" [] "*" (some 1) (some 0)) w with
      | .ok [[.text "a"]] _ => true
      | _ => false) &&
    (match Db.prepare 0 (q.pagedSelect "" [] "count(*)" (some 1) (some 1)) w with
      | .ok b w₁ =>
        match Db.steps 0 b w₁ with
        | .ok ([], none) _ => true
        | _ => false
      | _ => false)
  | _ => false

set_option maxRecDepth 100000 in
/-- The labels past the first, one to a page, on a database holding three: the engine answers
as SQL does and `toList` reads the second label, yet `count` is 0 and `elementAt 0` is the first
label. -/
theorem second_label_page_terminals :
    ∃ q w, Db.table 0 labelType threeLabelsWorld = .ok q w ∧
      SelectsPage 0 ((q.take 1).skip 1) "" [] [[.text "a"], [.text "b"], [.text "c"]] w
        (some 1) (some 1) ∧
      CountsPage 0 ((q.take 1).skip 1) "" [] 3 w (some 1) (some 1) ∧
      SelectsPage 0 ((q.take 1).skip 1) "" [] [[.text "a"], [.text "b"], [.text "c"]] w
        (some 1) (some 0) ∧
      (∃ w', Db.toList 0 ((q.take 1).skip 1) w = .ok [[.text "b"]] w') ∧
      (∃ w', Db.count 0 ((q.take 1).skip 1) w = .ok 0 w') ∧
      ∃ w', Db.elementAt 0 ((q.take 1).skip 1) 0 w = .ok [.text "a"] w' := by
  have hcheck : labelPageRuns = true := by
    decide +kernel
  unfold labelPageRuns at hcheck
  cases ht : Db.table 0 labelType threeLabelsWorld with
  | error e w =>
    rw [ht] at hcheck
    cases hcheck
  | ok q w =>
    rw [ht] at hcheck
    dsimp only at hcheck
    simp only [Bool.and_eq_true] at hcheck
    obtain ⟨⟨hpage, hat⟩, hcount⟩ := hcheck
    -- each check holds only in its first branch, which names the run's result
    split at hpage <;> [rename_i w₁ hl; cases hpage]
    split at hat <;> [rename_i w₂ hix; cases hat]
    split at hcount <;> [rename_i b w₃ hp; cases hcount]
    split at hcount <;> [rename_i w₄ hs; cases hcount]
    have hrows : SelectsPage 0 ((q.take 1).skip 1) "" [] [[.text "a"], [.text "b"], [.text "c"]] w
        (some 1) (some 1) := ⟨w₁, hl⟩
    have hcounts : CountsPage 0 ((q.take 1).skip 1) "" [] 3 w (some 1) (some 1) :=
      ⟨b, w₃, w₄, hp, hs⟩
    have hfirst : SelectsPage 0 ((q.take 1).skip 1) "" [] [[.text "a"], [.text "b"], [.text "c"]] w
        (some 1) (some 0) := ⟨w₂, hix⟩
    -- the query over every label records no join and no predicate
    have hj : ((q.take 1).skip 1).state.join = none := by
      show q.state.join = none
      rw [Db.table_state ht]
    have hw : whereClause ((q.take 1).skip 1).mapping ((q.take 1).skip 1).state.predicate =
        .ok ("", []) := by
      show whereClause q.mapping q.state.predicate = .ok ("", [])
      rw [Db.table_state ht]
      rfl
    obtain ⟨hlist, hc, -, he, -⟩ :=
      scalar_terminals_page_alone 0 ((q.take 1).skip 1) 0 w [[.text "a"], [.text "b"], [.text "c"]]
        hj hw (by decide)
    obtain ⟨w', hc⟩ := hc hcounts
    obtain ⟨w'', he⟩ := he hfirst
    exact ⟨q, w, rfl, hrows, hcounts, hfirst, hlist hrows, ⟨w', hc⟩, ⟨w'', he⟩⟩

end RecordMap
