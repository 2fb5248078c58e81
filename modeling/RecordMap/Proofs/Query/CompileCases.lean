import RecordMap.Query.Compile

/-!
# How a compilation succeeds

One lemma for each way `compile` can end well: what the parts of the expression compiled to, in
which order they saw the arguments, and how the result is put together from them. Statements
about compilation use these lemmas and never unfold `compile` themselves.
-/

namespace RecordMap

open RecordMap.Text

theorem bind_eq_ok {ε α β : Type} {x : Except ε α} {f : α → Except ε β} {b : β} :
    x >>= f = .ok b ↔ ∃ a, x = .ok a ∧ f a = .ok b := by
  cases x <;> simp [bind, Except.bind]

/-- The text between the operands of a binary operation: `is` and `is not` when either side is
the null constant. -/
def binaryInfix (op : BinaryOp) (sqlOp : String) (eitherNull : Bool) : String :=
  match op, eitherNull with
  | .eq, true => " is "
  | .ne, true => " is not "
  | _, _ => " " ++ sqlOp ++ " "

theorem binarySql_eq (op : BinaryOp) (sqlOp : String) (l r : Compiled) :
    binarySql op sqlOp l r =
      "(" ++ l.sql ++ binaryInfix op sqlOp (l.carriesNull || r.carriesNull) ++ r.sql ++ ")" := by
  unfold binarySql binaryInfix
  cases op <;> cases l.carriesNull || r.carriesNull <;> simp [String.append_assoc]

section

variable {m : Mapping} {args out : List Host} {c : Compiled}

theorem compile_binary_ok {op : BinaryOp} {l r : Expr}
    (h : compile m (.binary op l r) args = .ok (c, out)) :
    ∃ s cl mid cr, op.sql? = some s ∧ compile m l args = .ok (cl, mid) ∧
      compile m r mid = .ok (cr, out) ∧ c = .ofSql (binarySql op s cl cr) := by
  -- the arm begins with the lookup of the operator's text, and an operator without one throws
  conv at h => lhs; whnf
  split at h
  · rename_i s hs
    simp only [pure_bind] at h
    obtain ⟨⟨cl, mid⟩, hl, h⟩ := bind_eq_ok.1 h
    obtain ⟨⟨cr, _⟩, hr, h⟩ := bind_eq_ok.1 h
    cases h
    exact ⟨s, cl, mid, cr, hs, hl, hr, rfl⟩
  · cases h

theorem compile_like_ok {a b : Expr}
    (h : compile m (.call "like" none [a, b]) args = .ok (c, out)) :
    ∃ ca mid cb, compile m a args = .ok (ca, mid) ∧ compile m b mid = .ok (cb, out) ∧
      c = .ofSql ("(" ++ ca.sql ++ " like " ++ cb.sql ++ ")") := by
  obtain ⟨⟨ca, mid⟩, ha, h⟩ := bind_eq_ok.1 h
  obtain ⟨⟨cb, _⟩, hb, h⟩ := bind_eq_ok.1 h
  cases h
  exact ⟨ca, mid, cb, ha, hb, rfl⟩

theorem compile_in_ok {collection item : Expr}
    (h : compile m (.call "contains" none [collection, item]) args = .ok (c, out)) :
    ∃ cc own ci mid, compile m collection [] = .ok (cc, own) ∧
      compile m item args = .ok (ci, mid) ∧ out = mid ++ own ∧
      c = .ofSql ("(" ++ ci.sql ++ " in " ++ cc.sql ++ ")") := by
  obtain ⟨⟨cc, own⟩, hc, h⟩ := bind_eq_ok.1 h
  obtain ⟨⟨ci, mid⟩, hi, h⟩ := bind_eq_ok.1 h
  cases h
  exact ⟨cc, own, ci, mid, hc, hi, rfl, rfl⟩

theorem compile_contains_ok {receiver item : Expr}
    (h : compile m (.call "contains" (some receiver) [item]) args = .ok (c, out)) :
    ∃ cr own, compile m receiver [] = .ok (cr, own) ∧
      ((cr.isText = true ∧ ∃ ci, compile m item (args ++ own) = .ok (ci, out) ∧
          c = .ofSql ("(" ++ cr.sql ++ " like ('%'||" ++ ci.sql ++ "||'%'))")) ∨
        (cr.isText = false ∧ ∃ ci mid, compile m item args = .ok (ci, mid) ∧ out = mid ++ own ∧
          c = .ofSql ("(" ++ ci.sql ++ " in " ++ cr.sql ++ ")"))) := by
  obtain ⟨⟨cr, own⟩, hr, h⟩ := bind_eq_ok.1 h
  refine ⟨cr, own, hr, ?_⟩
  simp only at h
  split at h
  · rename_i ht
    obtain ⟨⟨ci, _⟩, hi, h⟩ := bind_eq_ok.1 h
    cases h
    exact .inl ⟨ht, ci, hi, rfl⟩
  · rename_i ht
    obtain ⟨⟨ci, mid⟩, hi, h⟩ := bind_eq_ok.1 h
    cases h
    exact .inr ⟨by simpa using ht, ci, mid, hi, rfl, rfl⟩

theorem compile_startsWith_ok {receiver p : Expr}
    (h : compile m (.call "starts_with" (some receiver) [p]) args = .ok (c, out)) :
    ∃ cr mid cp, compile m receiver args = .ok (cr, mid) ∧ compile m p mid = .ok (cp, out) ∧
      c = .ofSql ("(" ++ cr.sql ++ " like (" ++ cp.sql ++ "||'%'))") := by
  obtain ⟨⟨cr, mid⟩, hr, h⟩ := bind_eq_ok.1 h
  obtain ⟨⟨cp, _⟩, hp, h⟩ := bind_eq_ok.1 h
  cases h
  exact ⟨cr, mid, cp, hr, hp, rfl⟩

theorem compile_endsWith_ok {receiver s : Expr}
    (h : compile m (.call "ends_with" (some receiver) [s]) args = .ok (c, out)) :
    ∃ cr mid cs, compile m receiver args = .ok (cr, mid) ∧ compile m s mid = .ok (cs, out) ∧
      c = .ofSql ("(" ++ cr.sql ++ " like ('%'||" ++ cs.sql ++ "))") := by
  obtain ⟨⟨cr, mid⟩, hr, h⟩ := bind_eq_ok.1 h
  obtain ⟨⟨cs, _⟩, hs, h⟩ := bind_eq_ok.1 h
  cases h
  exact ⟨cr, mid, cs, hr, hs, rfl⟩

theorem compile_equals_ok {receiver o : Expr}
    (h : compile m (.call "equals" (some receiver) [o]) args = .ok (c, out)) :
    ∃ cr mid co, compile m receiver args = .ok (cr, mid) ∧ compile m o mid = .ok (co, out) ∧
      c = .ofSql ("(" ++ cr.sql ++ " = (" ++ co.sql ++ "))") := by
  obtain ⟨⟨cr, mid⟩, hr, h⟩ := bind_eq_ok.1 h
  obtain ⟨⟨co, _⟩, ho, h⟩ := bind_eq_ok.1 h
  cases h
  exact ⟨cr, mid, co, hr, ho, rfl⟩

theorem compile_toLower_ok {receiver : Expr}
    (h : compile m (.call "to_lower" (some receiver) []) args = .ok (c, out)) :
    ∃ cr, compile m receiver args = .ok (cr, out) ∧ c = .ofSql ("(lower(" ++ cr.sql ++ "))") := by
  obtain ⟨⟨cr, _⟩, hr, h⟩ := bind_eq_ok.1 h
  cases h
  exact ⟨cr, hr, rfl⟩

theorem compile_toUpper_ok {receiver : Expr}
    (h : compile m (.call "to_upper" (some receiver) []) args = .ok (c, out)) :
    ∃ cr, compile m receiver args = .ok (cr, out) ∧ c = .ofSql ("(upper(" ++ cr.sql ++ "))") := by
  obtain ⟨⟨cr, _⟩, hr, h⟩ := bind_eq_ok.1 h
  cases h
  exact ⟨cr, hr, rfl⟩

theorem compile_call_ok {method : String} {object : Option Expr} {rest : List Expr}
    (h1 : ∀ a b, method = "like" → object = none → rest = [a, b] → False)
    (h2 : ∀ coll item, method = "contains" → object = none → rest = [coll, item] → False)
    (h3 : ∀ recv item, method = "contains" → object = some recv → rest = [item] → False)
    (h4 : ∀ recv p, method = "starts_with" → object = some recv → rest = [p] → False)
    (h5 : ∀ recv s, method = "ends_with" → object = some recv → rest = [s] → False)
    (h6 : ∀ recv o, method = "equals" → object = some recv → rest = [o] → False)
    (h7 : ∀ recv, method = "to_lower" → object = some recv → rest = [] → False)
    (h8 : ∀ recv, method = "to_upper" → object = some recv → rest = [] → False)
    (h : compile m (.call method object rest) args = .ok (c, out)) :
    ∃ parts, compileAll m rest args = .ok (parts, out) ∧
      c = .ofSql (lowercase method ++ "(" ++ ",".intercalate parts ++ ")") := by
  rw [compile] at h
  · obtain ⟨⟨parts, _⟩, hp, h⟩ := bind_eq_ok.1 h
    cases h
    exact ⟨parts, hp, rfl⟩
  all_goals assumption

theorem compile_constant (h : Host) : compile m (.constant h) args = .ok (placeholder h args) :=
  rfl

theorem compile_convert_ok {operand : Expr} {t : DataType}
    (h : compile m (.convert operand t) args = .ok (c, out)) :
    ∃ r mid, compile m operand args = .ok (r, mid) ∧
      ((∃ v w, r.value = some (.scalar v) ∧ v.isNull = false ∧ v.coerce t = .ok w ∧
          c = { r with value := some (.scalar w), dataType := some t } ∧
          out = replaceLast mid (.scalar w)) ∨
        ((∀ v, r.value = some (.scalar v) → v.isNull = true) ∧
          c = { r with dataType := some t } ∧ out = mid)) := by
  obtain ⟨⟨r, mid⟩, hr, h⟩ := bind_eq_ok.1 h
  refine ⟨r, mid, hr, ?_⟩
  simp only at h
  split at h
  · rename_i v hv
    split at h
    · rename_i hn
      cases h
      refine .inr ⟨fun v' hv' => ?_, rfl, rfl⟩
      rw [hv, Option.some.injEq, Host.scalar.injEq] at hv'
      rw [← hv']
      exact hn
    · rename_i hn
      split at h
      · rename_i w hw
        cases h
        exact .inl ⟨v, w, hv, by simpa using hn, hw, rfl, rfl⟩
      · cases h
  · rename_i hv
    cases h
    exact .inr ⟨fun v hv' => (hv v hv').elim, rfl, rfl⟩

theorem compile_column_ok {name : String}
    (h : compile m (.member .parameter name) args = .ok (c, out)) :
    ∃ col, m.findByProperty name = some col ∧
      c = { sql := quoteIdentifier col.name, dataType := some col.dataType } ∧ out = args := by
  conv at h => lhs; whnf
  split at h
  · rename_i col hc
    cases h
    exact ⟨col, hc, rfl, rfl⟩
  · cases h

theorem compile_member_ok {object : Expr} {name : String} (ho : object ≠ .parameter)
    (h : compile m (.member object name) args = .ok (c, out)) :
    ∃ recv mid id tn members v, compile m object args = .ok (recv, mid) ∧
      recv.value = some (.object id tn members) ∧ (Host.object id tn members).member? name = some v ∧
      (c, out) = placeholder v mid.dropLast := by
  -- a member of the parameter has an arm of its own, so the object's constructor decides
  cases object
  case parameter => exact absurd rfl ho
  all_goals
    obtain ⟨⟨recv, mid⟩, hr, h⟩ := bind_eq_ok.1 h
    simp only at h
    split at h
    · rename_i id tn members hv
      split at h
      · rename_i v hm
        exact ⟨recv, mid, id, tn, members, v, hr, hv, hm, (Except.ok.inj h).symm⟩
      · cases h
    · cases h

theorem compileAll_nil_ok {parts : List String}
    (h : compileAll m [] args = .ok (parts, out)) : parts = [] ∧ out = args := by
  rw [compileAll] at h
  cases h
  exact ⟨rfl, rfl⟩

theorem compileAll_cons_ok {e : Expr} {rest : List Expr} {parts : List String}
    (h : compileAll m (e :: rest) args = .ok (parts, out)) :
    ∃ c mid cs, compile m e args = .ok (c, mid) ∧ compileAll m rest mid = .ok (cs, out) ∧
      parts = c.sql :: cs := by
  rw [compileAll] at h
  obtain ⟨⟨c, mid⟩, hc, h⟩ := bind_eq_ok.1 h
  obtain ⟨⟨cs, _⟩, hcs, h⟩ := bind_eq_ok.1 h
  cases h
  exact ⟨c, mid, cs, hc, hcs, rfl⟩

end

end RecordMap
