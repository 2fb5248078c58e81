import RecordMap.Proofs.Query.Render
import RecordMap.Proofs.Query.CompileCases
import RecordMap.Database.TableQuery

/-!
# Placeholders and bound values agree

Compiled SQL carries no values: each constant becomes `?` (a list one `?` per item) and its
values are appended to the arguments. The two are produced apart (a membership test compiles its
collection into a buffer of its own and appends it after the item, a member of an object drops
the object's own value again, a conversion replaces the last value), so that they line up is a
property of the whole compiler.

`render` is the reference: the same translation with every value written in place by the node
that produced it, a list item by item. `compile_fills` states that compiling appends values and
changes none of the earlier ones, and that the text binds exactly the appended values, in
order, to give the rendering. The proof is one induction along the recursion of `compile`, with
one lemma for each of its cases; the invariant carried through is `BindsInOrder`, which also
remembers that a compiled constant is its own placeholder, as a member access and a conversion
rely on. Statements of a table query bind the arguments of their `where` clause in the same
order.
-/

namespace RecordMap

open RecordMap.Text

/-! ## Compilation binds in order -/

/-- A compiled expression that stands for a constant is the constant's placeholder, and the
values it bound are the constant's own. -/
def StandsFor (c : Compiled) (new : List Host) : Prop :=
  ∀ h, c.value = some h → c.sql = (placeholder h []).1.sql ∧ new = (placeholder h []).2

/-- Compiling `e` after the arguments `args` appends values `new` and changes no earlier one,
and its text binds `new` in order, reading as the rendering once they are written in. -/
def BindsInOrder (m : Mapping) (e : Expr) (args : List Host) : Prop :=
  e.plainCalls = true → ∀ c out, compile m e args = .ok (c, out) →
    ∃ new, out = args ++ new ∧ StandsFor c new ∧
      ∀ write, ∃ r, render write m e = some r ∧ r.value = c.value ∧ r.dataType = c.dataType ∧
        Fills write c.sql.toList new r.sql.toList

/-- `BindsInOrder` for the arguments of a call, joined by commas. -/
def BindsInOrderAll (m : Mapping) (es : List Expr) (args : List Host) : Prop :=
  Expr.plainCallsAll es = true → ∀ parts out, compileAll m es args = .ok (parts, out) →
    ∃ new, out = args ++ new ∧
      ∀ write, ∃ texts, renderAll write m es = some texts ∧ texts.length = parts.length ∧
        Fills write (",".intercalate parts).toList new (",".intercalate texts).toList

variable {m : Mapping}

theorem standsFor_ofSql (sql : String) (new : List Host) : StandsFor (.ofSql sql) new := by
  intro h hv
  simp [Compiled.ofSql] at hv

theorem placeholder_eq (h : Host) (args : List Host) :
    placeholder h args = ((placeholder h []).1, args ++ (placeholder h []).2) := by
  cases h <;> simp [placeholder]

theorem placeholder_standsFor (h : Host) : StandsFor (placeholder h []).1 (placeholder h []).2 := by
  intro h' hv
  cases h <;> simp only [placeholder, Option.some.injEq] at hv <;> subst hv <;> simp [placeholder]

theorem placeholder_fills (write : Host → String) (h : Host) :
    Fills write (placeholder h []).1.sql.toList (placeholder h []).2 (inlineConstant write h).sql.toList := by
  cases h with
  | list items => simpa [placeholder, inlineConstant] using Fills.around1 (by decide : Inert "(") (by decide : Inert ")") (@Fills.items write items)
  | scalar v => exact Fills.hole _
  | object id tn members => exact Fills.hole _

theorem inlineConstant_value (write : Host → String) (h : Host) :
    (inlineConstant write h).value = (placeholder h []).1.value ∧
      (inlineConstant write h).dataType = (placeholder h []).1.dataType := by
  cases h <;> simp [inlineConstant, placeholder]

theorem bindsInOrder_binary {op : BinaryOp} {l r : Expr} {args : List Host} {s : String}
    (hs : op.sql? = some s) (ihl : BindsInOrder m l args) (ihr : ∀ args, BindsInOrder m r args) :
    BindsInOrder m (.binary op l r) args := by
  intro hp c out h
  simp only [Expr.plainCalls_binary, Bool.and_eq_true] at hp
  obtain ⟨s', cl, mid, cr, hs', hl, hr, rfl⟩ := compile_binary_ok h
  simp only [hs, Option.some.injEq] at hs'
  subst hs'
  obtain ⟨newL, rfl, -, hwl⟩ := ihl hp.1 cl mid hl
  obtain ⟨newR, rfl, -, hwr⟩ := ihr _ hp.2 cr out hr
  refine ⟨newL ++ newR, by simp, standsFor_ofSql _ _, fun write => ?_⟩
  obtain ⟨rl, hrl, hvl, -, hfl⟩ := hwl write
  obtain ⟨rr, hrr, hvr, -, hfr⟩ := hwr write
  have hrender : render write m (.binary op l r) = some (.ofSql (binarySql op s rl rr)) :=
    bind_eq_some_of hs (bind_eq_some_of hrl (bind_eq_some_of hrr rfl))
  refine ⟨.ofSql (binarySql op s rl rr), hrender, rfl, rfl, ?_⟩
  have hnull : (rl.carriesNull || rr.carriesNull) = (cl.carriesNull || cr.carriesNull) := by
    simp [Compiled.carriesNull, hvl, hvr]
  simp only [Compiled.ofSql, binarySql_eq, hnull]
  exact Fills.around2 (by decide) (inert_binaryInfix hs _) (by decide) hfl hfr

theorem bindsInOrder_constant (h : Host) (args : List Host) : BindsInOrder m (.constant h) args := by
  intro _ c out hc
  rw [compile_constant, placeholder_eq, Except.ok.injEq, Prod.mk.injEq] at hc
  obtain ⟨rfl, rfl⟩ := hc
  refine ⟨_, rfl, placeholder_standsFor h, fun write => ⟨inlineConstant write h, ?_, ?_⟩⟩
  · rfl
  · exact ⟨(inlineConstant_value write h).1, (inlineConstant_value write h).2, placeholder_fills write h⟩

/-- The calls that compile two operands in turn and put them between fixed texts. -/
theorem bindsInOrder_pair {e a b : Expr} {args : List Host} (pre mid post : String)
    (hpre : Inert pre) (hmid : Inert mid) (hpost : Inert post)
    (hplain : e.plainCalls = true → a.plainCalls = true ∧ b.plainCalls = true)
    (hcomp : ∀ {c out}, compile m e args = .ok (c, out) → ∃ ca mid' cb,
      compile m a args = .ok (ca, mid') ∧ compile m b mid' = .ok (cb, out) ∧
        c = .ofSql (pre ++ ca.sql ++ mid ++ cb.sql ++ post))
    (hrender : ∀ write ra rb, render write m a = some ra → render write m b = some rb →
      render write m e = some (.ofSql (pre ++ ra.sql ++ mid ++ rb.sql ++ post)))
    (iha : BindsInOrder m a args) (ihb : ∀ args, BindsInOrder m b args) :
    BindsInOrder m e args := by
  intro hp c out h
  obtain ⟨ha, hb⟩ := hplain hp
  obtain ⟨ca, mid', cb, hca, hcb, rfl⟩ := hcomp h
  obtain ⟨na, rfl, -, hwa⟩ := iha ha ca mid' hca
  obtain ⟨nb, rfl, -, hwb⟩ := ihb _ hb cb out hcb
  refine ⟨na ++ nb, by simp, standsFor_ofSql _ _, fun write => ?_⟩
  obtain ⟨ra, hra, -, -, hfa⟩ := hwa write
  obtain ⟨rb, hrb, -, -, hfb⟩ := hwb write
  exact ⟨_, hrender write ra rb hra hrb, rfl, rfl, Fills.around2 hpre hmid hpost hfa hfb⟩

theorem bindsInOrder_like {a b : Expr} {args : List Host} (iha : BindsInOrder m a args)
    (ihb : ∀ args, BindsInOrder m b args) : BindsInOrder m (.call "like" none [a, b]) args :=
  bindsInOrder_pair "(" " like " ")" (by decide) (by decide)
    (by decide) (fun hp => by simp_all) compile_like_ok
    (fun _ _ _ ha hb => bind_eq_some_of ha (bind_eq_some_of hb rfl)) iha ihb

theorem bindsInOrder_startsWith {receiver p : Expr} {args : List Host}
    (ihr : BindsInOrder m receiver args) (ihp : ∀ args, BindsInOrder m p args) :
    BindsInOrder m (.call "starts_with" (some receiver) [p]) args :=
  bindsInOrder_pair "(" " like (" "||'%'))" (by decide) (by decide)
    (by decide) (fun hp => by simp_all) compile_startsWith_ok
    (fun _ _ _ ha hb => bind_eq_some_of ha (bind_eq_some_of hb rfl)) ihr ihp

theorem bindsInOrder_endsWith {receiver s : Expr} {args : List Host}
    (ihr : BindsInOrder m receiver args) (ihs : ∀ args, BindsInOrder m s args) :
    BindsInOrder m (.call "ends_with" (some receiver) [s]) args :=
  bindsInOrder_pair "(" " like ('%'||" "))" (by decide) (by decide)
    (by decide) (fun hp => by simp_all) compile_endsWith_ok
    (fun _ _ _ ha hb => bind_eq_some_of ha (bind_eq_some_of hb rfl)) ihr ihs

theorem bindsInOrder_equals {receiver o : Expr} {args : List Host}
    (ihr : BindsInOrder m receiver args) (iho : ∀ args, BindsInOrder m o args) :
    BindsInOrder m (.call "equals" (some receiver) [o]) args :=
  bindsInOrder_pair "(" " = (" "))" (by decide) (by decide)
    (by decide) (fun hp => by simp_all) compile_equals_ok
    (fun _ _ _ ha hb => bind_eq_some_of ha (bind_eq_some_of hb rfl)) ihr iho

/-- The calls that compile their receiver alone and wrap it in fixed texts. -/
theorem bindsInOrder_wrap {e receiver : Expr} {args : List Host} (pre post : String)
    (hpre : Inert pre) (hpost : Inert post)
    (hplain : e.plainCalls = true → receiver.plainCalls = true)
    (hcomp : ∀ {c out}, compile m e args = .ok (c, out) → ∃ cr,
      compile m receiver args = .ok (cr, out) ∧ c = .ofSql (pre ++ cr.sql ++ post))
    (hrender : ∀ write r, render write m receiver = some r →
      render write m e = some (.ofSql (pre ++ r.sql ++ post)))
    (ihr : BindsInOrder m receiver args) : BindsInOrder m e args := by
  intro hp c out h
  obtain ⟨cr, hcr, rfl⟩ := hcomp h
  obtain ⟨new, rfl, -, hw⟩ := ihr (hplain hp) cr out hcr
  refine ⟨new, rfl, standsFor_ofSql _ _, fun write => ?_⟩
  obtain ⟨r, hr, -, -, hf⟩ := hw write
  exact ⟨_, hrender write r hr, rfl, rfl, Fills.around1 hpre hpost hf⟩

theorem bindsInOrder_toLower {receiver : Expr} {args : List Host}
    (ihr : BindsInOrder m receiver args) :
    BindsInOrder m (.call "to_lower" (some receiver) []) args :=
  bindsInOrder_wrap "(lower(" "))" (by decide) (by decide)
    (fun hp => by simp_all) compile_toLower_ok
    (fun _ _ hr => bind_eq_some_of hr rfl) ihr

theorem bindsInOrder_toUpper {receiver : Expr} {args : List Host}
    (ihr : BindsInOrder m receiver args) :
    BindsInOrder m (.call "to_upper" (some receiver) []) args :=
  bindsInOrder_wrap "(upper(" "))" (by decide) (by decide)
    (fun hp => by simp_all) compile_toUpper_ok
    (fun _ _ hr => bind_eq_some_of hr rfl) ihr

/-- Free-standing membership compiles the collection into arguments of its own and appends them
after the item's, which matches the text: the item comes first. -/
theorem bindsInOrder_in {collection item : Expr} {args : List Host}
    (ihc : BindsInOrder m collection []) (ihi : BindsInOrder m item args) :
    BindsInOrder m (.call "contains" none [collection, item]) args := by
  intro hp c out h
  simp only [Expr.plainCalls_free, Expr.plainCallsAll_cons, Expr.plainCallsAll_nil, Bool.and_eq_true,
    Bool.and_true] at hp
  obtain ⟨cc, own, ci, mid, hcc, hci, rfl, rfl⟩ := compile_in_ok h
  obtain ⟨_, rfl, -, hwc⟩ := ihc hp.2.1 cc own hcc
  obtain ⟨ni, rfl, -, hwi⟩ := ihi hp.2.2 ci mid hci
  refine ⟨ni ++ own, by simp, standsFor_ofSql _ _, fun write => ?_⟩
  obtain ⟨rc, hrc, -, -, hfc⟩ := hwc write
  obtain ⟨ri, hri, -, -, hfi⟩ := hwi write
  refine ⟨.ofSql ("(" ++ ri.sql ++ " in " ++ rc.sql ++ ")"), bind_eq_some_of hrc (bind_eq_some_of hri rfl),
    rfl, rfl, ?_⟩
  exact Fills.around2 (by decide) (by decide) (by decide) hfi hfc

theorem isText_congr {a b : Compiled} (hv : a.value = b.value) (hd : a.dataType = b.dataType) :
    a.isText = b.isText := by
  unfold Compiled.isText
  rw [hv, hd]

/-- A method membership test chooses by the compiled receiver: a text receiver binds its values
before the item's, as its pattern is written first; any other binds them after. -/
theorem bindsInOrder_contains {receiver item : Expr} {args : List Host}
    (ihr : BindsInOrder m receiver []) (ihown : ∀ own, BindsInOrder m item (args ++ own))
    (ihi : BindsInOrder m item args) :
    BindsInOrder m (.call "contains" (some receiver) [item]) args := by
  intro hp c out h
  simp only [Expr.plainCalls_method, Expr.plainCallsAll_cons, Expr.plainCallsAll_nil, Bool.and_eq_true,
    Bool.and_true] at hp
  obtain ⟨cr, own, hcr, hbranch⟩ := compile_contains_ok h
  obtain ⟨_, rfl, -, hwr⟩ := ihr hp.1.2 cr own hcr
  rcases hbranch with ⟨htext, ci, hci, rfl⟩ | ⟨htext, ci, mid, hci, rfl, rfl⟩
  · obtain ⟨ni, rfl, -, hwi⟩ := ihown own hp.2 ci out hci
    refine ⟨own ++ ni, by simp, standsFor_ofSql _ _, fun write => ?_⟩
    obtain ⟨rr, hrr, hvr, hdr, hfr⟩ := hwr write
    obtain ⟨ri, hri, -, -, hfi⟩ := hwi write
    have ht : rr.isText = true := (isText_congr hvr hdr).trans htext
    refine ⟨.ofSql ("(" ++ rr.sql ++ " like ('%'||" ++ ri.sql ++ "||'%'))"),
      bind_eq_some_of hrr (bind_eq_some_of hri (by simp [ht])), rfl, rfl, ?_⟩
    exact Fills.around2 (by decide) (by decide) (by decide) hfr hfi
  · obtain ⟨ni, rfl, -, hwi⟩ := ihi hp.2 ci mid hci
    refine ⟨ni ++ own, by simp, standsFor_ofSql _ _, fun write => ?_⟩
    obtain ⟨rr, hrr, hvr, hdr, hfr⟩ := hwr write
    obtain ⟨ri, hri, -, -, hfi⟩ := hwi write
    have ht : rr.isText = false := (isText_congr hvr hdr).trans htext
    refine ⟨.ofSql ("(" ++ ri.sql ++ " in " ++ rr.sql ++ ")"),
      bind_eq_some_of hrr (bind_eq_some_of hri (by simp [ht])), rfl, rfl, ?_⟩
    exact Fills.around2 (by decide) (by decide) (by decide) hfi hfr

theorem plainCalls_call {method : String} {object : Option Expr} {rest : List Expr}
    (hp : (Expr.call method object rest).plainCalls = true) :
    isPlainName method = true ∧ Expr.plainCallsAll rest = true := by
  cases object <;> simp_all

theorem bindsInOrder_call {method : String} {object : Option Expr} {rest : List Expr}
    {args : List Host}
    (h1 : ∀ a b, method = "like" → object = none → rest = [a, b] → False)
    (h2 : ∀ coll item, method = "contains" → object = none → rest = [coll, item] → False)
    (h3 : ∀ recv item, method = "contains" → object = some recv → rest = [item] → False)
    (h4 : ∀ recv p, method = "starts_with" → object = some recv → rest = [p] → False)
    (h5 : ∀ recv s, method = "ends_with" → object = some recv → rest = [s] → False)
    (h6 : ∀ recv o, method = "equals" → object = some recv → rest = [o] → False)
    (h7 : ∀ recv, method = "to_lower" → object = some recv → rest = [] → False)
    (h8 : ∀ recv, method = "to_upper" → object = some recv → rest = [] → False)
    (ih : BindsInOrderAll m rest args) : BindsInOrder m (.call method object rest) args := by
  intro hp c out h
  obtain ⟨hname, hrest⟩ := plainCalls_call hp
  obtain ⟨parts, hparts, rfl⟩ := compile_call_ok h1 h2 h3 h4 h5 h6 h7 h8 h
  obtain ⟨new, rfl, hw⟩ := ih hrest parts out hparts
  refine ⟨new, rfl, standsFor_ofSql _ _, fun write => ?_⟩
  obtain ⟨texts, htexts, -, hf⟩ := hw write
  have hrender : render write m (.call method object rest) =
      some (.ofSql (lowercase method ++ "(" ++ ",".intercalate texts ++ ")")) := by
    rw [render]
    · simp [htexts]
    all_goals assumption
  -- the method's name is written lowercased, so only a plain name keeps the text inert
  have hpre : Inert (lowercase method ++ "(") := inert_append (inert_lowercase hname) (by decide)
  exact ⟨_, hrender, rfl, rfl, Fills.around1 hpre (by decide) hf⟩

theorem bindsInOrder_convert {operand : Expr} {target : DataType} {args : List Host}
    (ih : BindsInOrder m operand args) : BindsInOrder m (.convert operand target) args := by
  intro hp c out h
  simp only [Expr.plainCalls_convert] at hp
  obtain ⟨r, mid, hr, hbranch⟩ := compile_convert_ok h
  obtain ⟨newO, rfl, hstand, hw⟩ := ih hp r mid hr
  rcases hbranch with ⟨v, w, hv, hnull, hcoerce, rfl, rfl⟩ | ⟨hnull, rfl, rfl⟩
  · -- the operand stood for the scalar `v`, whose one value the converted one replaces
    obtain ⟨hsql, rfl⟩ := hstand _ hv
    refine ⟨[.scalar w], by simp [replaceLast, placeholder], ?_, fun write => ?_⟩
    · intro h' hh'
      simp only [Option.some.injEq] at hh'
      subst hh'
      simp [placeholder, hsql]
    · obtain ⟨rr, hrr, hvr, -, -⟩ := hw write
      refine ⟨{ inlineConstant write (.scalar w) with dataType := some target }, ?_,
        by simp [inlineConstant], rfl, ?_⟩
      · refine bind_eq_some_of hrr ?_
        simp [hvr, hv, hnull, hcoerce]
      · simp only [hsql, placeholder]
        exact Fills.hole _
  · refine ⟨newO, rfl, hstand, fun write => ?_⟩
    obtain ⟨rr, hrr, hvr, hdr, hfr⟩ := hw write
    refine ⟨{ rr with dataType := some target }, ?_, hvr, rfl, hfr⟩
    refine bind_eq_some_of hrr ?_
    split
    · rename_i v hv
      simp [hnull v (hvr ▸ hv)]
    · rfl

theorem bindsInOrder_column {name : String} {args : List Host} {col : Column}
    (hcol : m.findByProperty name = some col) : BindsInOrder m (.member .parameter name) args := by
  intro _ c out h
  obtain ⟨col', hcol', rfl, rfl⟩ := compile_column_ok h
  obtain rfl : col = col' := Option.some.inj (hcol.symm.trans hcol')
  refine ⟨[], by simp, fun h hv => by simp at hv, fun write => ⟨_, ?_, rfl, rfl, Fills.quoted _⟩⟩
  show (m.findByProperty name).map _ = _
  rw [hcol]
  rfl

theorem bindsInOrder_unknownColumn {name : String} {args : List Host}
    (hcol : m.findByProperty name = none) : BindsInOrder m (.member .parameter name) args := by
  intro _ c out h
  obtain ⟨col, hcol', -⟩ := compile_column_ok h
  simp [hcol] at hcol'

/-- A member of an object constant drops the object's value again and binds the member's in its
place, which is sound because the object compiled to exactly one placeholder. -/
theorem bindsInOrder_member {object : Expr} {name : String} {args : List Host}
    (ho : object = .parameter → False) (ih : BindsInOrder m object args) :
    BindsInOrder m (.member object name) args := by
  intro hp c out h
  simp only [Expr.plainCalls_member] at hp
  obtain ⟨recv, mid, id, tn, members, v, hr, hv, hm, hc⟩ := compile_member_ok ho h
  obtain ⟨newO, rfl, hstand, hw⟩ := ih hp recv mid hr
  obtain ⟨-, rfl⟩ := hstand _ hv
  have hdrop : (args ++ (placeholder (.object id tn members) []).2).dropLast = args := by
    simp [placeholder]
  rw [hdrop, placeholder_eq, Prod.mk.injEq] at hc
  obtain ⟨rfl, rfl⟩ := hc
  refine ⟨_, rfl, placeholder_standsFor v, fun write => ?_⟩
  obtain ⟨rr, hrr, hvr, -, -⟩ := hw write
  refine ⟨inlineConstant write v, ?_, (inlineConstant_value write v).1,
    (inlineConstant_value write v).2, placeholder_fills write v⟩
  -- the members of the parameter have an arm of their own, so the object's constructor decides
  cases object
  case parameter => exact absurd rfl ho
  all_goals exact bind_eq_some_of hrr (by simp [hvr, hv, hm])

theorem bindsInOrder_unsupported {other : Expr} {args : List Host}
    (h1 : ∀ op l r, other = .binary op l r → False)
    (h2 : ∀ method object callArgs, other = .call method object callArgs → False)
    (h3 : ∀ h, other = .constant h → False) (h4 : ∀ o t, other = .convert o t → False)
    (h6 : ∀ o name, other = .member o name → False) : BindsInOrder m other args := by
  intro _ c out h
  cases other with
  | binary op l r => exact (h1 op l r rfl).elim
  | call method object callArgs => exact (h2 _ _ _ rfl).elim
  | constant v => exact (h3 v rfl).elim
  | convert o t => exact (h4 o t rfl).elim
  | member o name => exact (h6 o name rfl).elim
  | parameter | unary | conditional => cases h

theorem bindsInOrderAll_nil (args : List Host) : BindsInOrderAll m [] args := by
  intro _ parts out h
  obtain ⟨rfl, rfl⟩ := compileAll_nil_ok h
  exact ⟨[], by simp, fun _ => ⟨[], rfl, rfl, ⟨rfl, rfl, rfl⟩⟩⟩

theorem bindsInOrderAll_cons {e : Expr} {rest : List Expr} {args : List Host}
    (ihe : BindsInOrder m e args) (ihrest : ∀ args, BindsInOrderAll m rest args) :
    BindsInOrderAll m (e :: rest) args := by
  intro hp parts out h
  simp only [Expr.plainCallsAll, Bool.and_eq_true] at hp
  obtain ⟨c, mid, cs, hc, hcs, rfl⟩ := compileAll_cons_ok h
  obtain ⟨ne, rfl, -, hwe⟩ := ihe hp.1 c mid hc
  obtain ⟨nr, rfl, hwr⟩ := ihrest _ hp.2 cs out hcs
  refine ⟨ne ++ nr, by simp, fun write => ?_⟩
  obtain ⟨r, hr, -, -, hf⟩ := hwe write
  obtain ⟨texts, htexts, hlen, hfs⟩ := hwr write
  refine ⟨r.sql :: texts, bind_eq_some_of hr (bind_eq_some_of htexts rfl), by simp [hlen], ?_⟩
  exact Fills.sepCons (by decide) hf hfs hlen.symm

theorem bindsInOrder_noOperator {op : BinaryOp} {l r : Expr} {args : List Host}
    (hs : op.sql? = none) : BindsInOrder m (.binary op l r) args := by
  intro _ c out h
  obtain ⟨s, -, -, -, hs', -⟩ := compile_binary_ok h
  simp [hs] at hs'

/-- Every compilation binds in order, by induction along the recursion of `compile`. -/
theorem bindsInOrder_all (m : Mapping) :
    (∀ e args, BindsInOrder m e args) ∧ (∀ es args, BindsInOrderAll m es args) :=
  compile.mutual_induct m (BindsInOrder m) (BindsInOrderAll m)
    (fun _ _ _ _ _ hs ihl ihr => bindsInOrder_binary hs ihl ihr)
    (fun _ _ _ _ hs _ _ => bindsInOrder_noOperator hs)
    (fun _ _ _ iha ihb => bindsInOrder_like iha ihb)
    (fun _ _ _ ihc ihi => bindsInOrder_in ihc ihi)
    (fun _ _ _ ihr ihown ihi => bindsInOrder_contains ihr ihown ihi)
    (fun _ _ _ ihr ihp => bindsInOrder_startsWith ihr ihp)
    (fun _ _ _ ihr ihs => bindsInOrder_endsWith ihr ihs)
    (fun _ _ _ ihr iho => bindsInOrder_equals ihr iho)
    (fun _ _ ihr => bindsInOrder_toLower ihr)
    (fun _ _ ihr => bindsInOrder_toUpper ihr)
    (fun _ _ _ _ h1 h2 h3 h4 h5 h6 h7 h8 ih => bindsInOrder_call h1 h2 h3 h4 h5 h6 h7 h8 ih)
    bindsInOrder_constant
    (fun _ _ _ ih => bindsInOrder_convert ih)
    (fun _ _ _ hcol => bindsInOrder_column hcol)
    (fun _ _ hcol => bindsInOrder_unknownColumn hcol)
    (fun _ _ _ ho ih => bindsInOrder_member ho ih)
    (fun _ _ h1 h2 h3 h4 _ h6 => bindsInOrder_unsupported h1 h2 h3 h4 h6)
    bindsInOrderAll_nil
    (fun _ _ _ ihe ihrest => bindsInOrderAll_cons ihe ihrest)

theorem compile_fills {e : Expr} {args out : List Host} {c : Compiled} (hp : e.plainCalls = true)
    (h : compile m e args = .ok (c, out)) :
    ∃ new, out = args ++ new ∧
      ∀ write, ∃ r, render write m e = some r ∧ Fills write c.sql.toList new r.sql.toList := by
  obtain ⟨new, hout, -, hw⟩ := (bindsInOrder_all m).1 e args hp c out h
  refine ⟨new, hout, fun write => ?_⟩
  obtain ⟨r, hr, -, -, hf⟩ := hw write
  exact ⟨r, hr, hf⟩

/-! ## Statements of a table query -/

theorem foldl_bindHost (args : List Host) (cmd : Command) :
    args.foldl Command.bindHost cmd =
      { cmd with bindings := cmd.bindings ++ args.map fun h => ⟨none, h, 0⟩ } := by
  induction args generalizing cmd with
  | nil => simp
  | cons h rest ih => simp [ih, Command.bindHost]

theorem foldl_bindHost_values (args : List Host) (text : String) :
    (args.foldl Command.bindHost ⟨text, []⟩).bindings.map Binding.value = args ∧
      (args.foldl Command.bindHost ⟨text, []⟩).text = text := by
  simp [foldl_bindHost, Function.comp_def]

namespace TableQuery

variable {q : TableQuery}

theorem generate_where_ok {sel : String} {p : Expr} {cmd : Command}
    (hp : q.state.predicate = some p) (h : q.generate sel = .ok cmd) :
    ∃ c args, compile q.mapping p [] = .ok (c, args) ∧
      cmd = args.foldl Command.bindHost ⟨"select " ++ sel ++ " from " ++
        quoteIdentifier q.mapping.tableName ++ " where " ++ c.sql ++
        orderByClause q.state.orderings ++ limitClause q.state.limit q.state.offset, []⟩ := by
  unfold generate at h
  simp only [hp] at h
  split at h
  · cases h
  · obtain ⟨⟨c, args⟩, hc, h⟩ := bind_eq_ok.1 h
    exact ⟨c, args, hc, (Except.ok.inj h).symm⟩

theorem deleteCommand_ok {cmd : Command} (h : q.deleteCommand = .ok cmd) :
    ∃ p c args, q.state.predicate = some p ∧ compile q.mapping p [] = .ok (c, args) ∧
      cmd = args.foldl Command.bindHost
        ⟨"delete from " ++ quoteIdentifier q.mapping.tableName ++ " where " ++ c.sql, []⟩ := by
  unfold deleteCommand at h
  by_cases hlim : (q.state.limit.isSome || q.state.offset.isSome) = true
  · simp only [hlim, if_true] at h
    obtain ⟨_, hthrow, -⟩ := bind_eq_ok.1 h
    cases hthrow
  · cases hp : q.state.predicate with
    | none => simp [hlim, hp] at h
    | some p =>
      simp only [hlim, hp, if_false, Bool.false_eq_true] at h
      obtain ⟨⟨c, args⟩, hc, h⟩ := bind_eq_ok.1 h
      exact ⟨p, c, args, rfl, hc, (Except.ok.inj h).symm⟩

/-- The orderings bind nothing: their columns are quoted names. -/
theorem fills_orderByClause (write : Host → String) (os : Option (List Ordering)) :
    Fills write (orderByClause os).toList [] (orderByClause os).toList := by
  rcases os with _ | _ | ⟨o, rest⟩
  · exact ⟨rfl, rfl, rfl⟩
  · exact ⟨rfl, rfl, rfl⟩
  · have hterms : ∀ x ∈ (o :: rest).map (fun o : Ordering =>
        quoteIdentifier o.column ++ (if o.ascending then "" else " desc")),
        Fills write x.toList [] x.toList := by
      intro x hx
      obtain ⟨o, -, rfl⟩ := List.mem_map.1 hx
      have hdir : Inert (if o.ascending then "" else " desc") := by split <;> decide
      simpa using (Fills.quoted o.column).append (Fills.inert hdir)
    simpa [orderByClause] using (Fills.inert (by decide : Inert " order by ")).append
      (Fills.intercalate (by decide : Inert ", ") hterms)

theorem inert_limitClause (l o : Option Nat) : Inert (limitClause l o) := by
  cases l <;> cases o
  · decide
  · exact inert_append (by decide) (inert_toString _)
  · exact inert_append (by decide) (inert_toString _)
  · exact inert_append (inert_append (inert_append (by decide) (inert_toString _)) (by decide))
      (inert_toString _)

/-- A query's statement binds the arguments of its `where` clause and nothing else: the text is
the select list, the table, the compiled predicate, the orderings and the limit, and writing the
bound values in turns it into the same statement with the predicate rendered. -/
theorem generate_fills {sel : String} {p : Expr} {cmd : Command} (hsel : Inert sel)
    (hp : q.state.predicate = some p) (hplain : p.plainCalls = true)
    (h : q.generate sel = .ok cmd) :
    ∃ c, compile q.mapping p [] = .ok (c, cmd.bindings.map Binding.value) ∧
      cmd.text = "select " ++ sel ++ " from " ++ quoteIdentifier q.mapping.tableName ++
        " where " ++ c.sql ++ orderByClause q.state.orderings ++
        limitClause q.state.limit q.state.offset ∧
      ∀ write, ∃ r, render write q.mapping p = some r ∧
        Fills write cmd.text.toList (cmd.bindings.map Binding.value)
          ("select " ++ sel ++ " from " ++ quoteIdentifier q.mapping.tableName ++ " where " ++
            r.sql ++ orderByClause q.state.orderings ++
            limitClause q.state.limit q.state.offset).toList := by
  obtain ⟨c, args, hc, rfl⟩ := generate_where_ok hp h
  obtain ⟨hvals, htext⟩ := foldl_bindHost_values args
    ("select " ++ sel ++ " from " ++ quoteIdentifier q.mapping.tableName ++ " where " ++ c.sql ++
      orderByClause q.state.orderings ++ limitClause q.state.limit q.state.offset)
  rw [hvals, htext]
  refine ⟨c, hc, rfl, fun write => ?_⟩
  obtain ⟨new, hnew, hw⟩ := compile_fills hplain hc
  obtain ⟨r, hr, hf⟩ := hw write
  rw [List.nil_append] at hnew
  subst hnew
  have hhead : Fills write ("select " ++ sel ++ " from ").toList [] ("select " ++ sel ++ " from ").toList :=
    Fills.inert (inert_append (inert_append (by decide) hsel) (by decide))
  have hwhere : Fills write " where ".toList [] " where ".toList := Fills.inert (by decide)
  refine ⟨r, hr, ?_⟩
  simpa using ((((hhead.append (Fills.quoted q.mapping.tableName)).append hwhere).append hf).append
    (fills_orderByClause write q.state.orderings)).append
    (Fills.inert (inert_limitClause q.state.limit q.state.offset))

/-- A delete binds the arguments of its `where` clause and nothing else. -/
theorem deleteCommand_fills {p : Expr} {cmd : Command} (hp : q.state.predicate = some p)
    (hplain : p.plainCalls = true) (h : q.deleteCommand = .ok cmd) :
    ∃ c, compile q.mapping p [] = .ok (c, cmd.bindings.map Binding.value) ∧
      cmd.text = "delete from " ++ quoteIdentifier q.mapping.tableName ++ " where " ++ c.sql ∧
      ∀ write, ∃ r, render write q.mapping p = some r ∧
        Fills write cmd.text.toList (cmd.bindings.map Binding.value)
          ("delete from " ++ quoteIdentifier q.mapping.tableName ++ " where " ++ r.sql).toList := by
  obtain ⟨p', c, args, hp', hc, rfl⟩ := deleteCommand_ok h
  obtain rfl : p = p' := Option.some.inj (hp.symm.trans hp')
  obtain ⟨hvals, htext⟩ := foldl_bindHost_values args
    ("delete from " ++ quoteIdentifier q.mapping.tableName ++ " where " ++ c.sql)
  rw [hvals, htext]
  refine ⟨c, hc, rfl, fun write => ?_⟩
  obtain ⟨new, hnew, hw⟩ := compile_fills hplain hc
  obtain ⟨r, hr, hf⟩ := hw write
  rw [List.nil_append] at hnew
  subst hnew
  have hhead : Fills write "delete from ".toList [] "delete from ".toList := Fills.inert (by decide)
  have hwhere : Fills write " where ".toList [] " where ".toList := Fills.inert (by decide)
  refine ⟨r, hr, ?_⟩
  simpa using ((hhead.append (Fills.quoted q.mapping.tableName)).append hwhere).append hf

end TableQuery

/-- Compilation, and the statements of a table query, bind their values in the order of their
placeholders: compiling only appends values, its text has one `?` outside quoted names for each
appended value, and writing them in, left to right, gives the rendering with the values inline;
a query's `select` and a `delete` bind exactly the values of their `where` clause. -/
theorem placeholders_bind_in_order :
    (∀ (m : Mapping) (e : Expr) (args out : List Host) (c : Compiled), e.plainCalls = true →
      compile m e args = .ok (c, out) →
      ∃ new, out = args ++ new ∧
        ∀ write, ∃ r, render write m e = some r ∧ Fills write c.sql.toList new r.sql.toList) ∧
    (∀ (q : TableQuery) (sel : String) (p : Expr) (cmd : Command), Inert sel →
      q.state.predicate = some p → p.plainCalls = true → q.generate sel = .ok cmd →
      ∃ c, compile q.mapping p [] = .ok (c, cmd.bindings.map Binding.value) ∧
        cmd.text = "select " ++ sel ++ " from " ++ quoteIdentifier q.mapping.tableName ++
          " where " ++ c.sql ++ TableQuery.orderByClause q.state.orderings ++
          TableQuery.limitClause q.state.limit q.state.offset ∧
        ∀ write, ∃ r, render write q.mapping p = some r ∧
          Fills write cmd.text.toList (cmd.bindings.map Binding.value)
            ("select " ++ sel ++ " from " ++ quoteIdentifier q.mapping.tableName ++ " where " ++
              r.sql ++ TableQuery.orderByClause q.state.orderings ++
              TableQuery.limitClause q.state.limit q.state.offset).toList) ∧
    (∀ (q : TableQuery) (p : Expr) (cmd : Command), q.state.predicate = some p →
      p.plainCalls = true → q.deleteCommand = .ok cmd →
      ∃ c, compile q.mapping p [] = .ok (c, cmd.bindings.map Binding.value) ∧
        cmd.text = "delete from " ++ quoteIdentifier q.mapping.tableName ++ " where " ++ c.sql ∧
        ∀ write, ∃ r, render write q.mapping p = some r ∧
          Fills write cmd.text.toList (cmd.bindings.map Binding.value)
            ("delete from " ++ quoteIdentifier q.mapping.tableName ++ " where " ++ r.sql).toList) :=
  ⟨fun _ _ _ _ _ hp h => compile_fills hp h,
    fun _ _ _ _ hsel hp hplain h => TableQuery.generate_fills hsel hp hplain h,
    fun _ _ _ hp hplain h => TableQuery.deleteCommand_fills hp hplain h⟩

/-- Deleting by a membership test binds the item, then the list's items, as the text reads. -/
theorem membership_delete_binds_in_order :
    ∃ c, compile default (.call "contains" none [.constant (.list [.int 1, .int 2]),
        .constant (.scalar (.int 3))]) [] =
        .ok (c, [.scalar (.int 3), .scalar (.int 1), .scalar (.int 2)]) ∧
      "delete from \"\" where (? in (?,?))" =
        "delete from " ++ quoteIdentifier "" ++ " where " ++ c.sql ∧
      ∀ write, ∃ r, render write default (.call "contains" none [.constant (.list [.int 1, .int 2]),
          .constant (.scalar (.int 3))]) = some r ∧
        Fills write "delete from \"\" where (? in (?,?))".toList
          [.scalar (.int 3), .scalar (.int 1), .scalar (.int 2)]
          ("delete from " ++ quoteIdentifier "" ++ " where " ++ r.sql).toList :=
  placeholders_bind_in_order.2.2
    ⟨default, default, { predicate := some (.call "contains" none
      [.constant (.list [.int 1, .int 2]), .constant (.scalar (.int 3))]) }⟩
    _ _ rfl (by decide) rfl

end RecordMap
