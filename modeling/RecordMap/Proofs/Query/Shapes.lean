import RecordMap.Proofs.Query.CompileCases
import Mathlib.Data.List.Basic

/-!
# Compiled text depends only on the shapes of constants

`compile_text_depends_only_on_shapes`: two expressions of one tree whose constants have the
same shape compile, when both compile, to the same text, whatever the values and the arguments
before them. No scalar's content is ever written into the text.

1. A constant's `Shape` is what compiled text can tell of it: null, text, another scalar, a list
   of a given length, or an object. A placeholder's text is fixed by it (`placeholder_sql_eq`).
2. The compiler reads a value in three more places: whether it is null (`is` for `=`), whether
   it is text (a pattern or a membership test for `contains`), and what a conversion makes of
   it. The first two are questions about the shape, and `Value.coerce_shape` says a conversion
   moves shapes by a function of the target alone (`Shape.coerced`).
3. A member of an object constant is bound in the object's place, so the object's members
   named by the expression must look alike too: `Expr.Alike path` carries the member names
   demanded of a subexpression's value, and `Host.AlikeAt` asks them of a constant.
4. `sameText_all` is one induction along the recursion of `compile`, with one lemma for each
   of its cases.
-/

namespace RecordMap

/-! ## Shapes and conversions -/

/-- What compiled text can tell of a constant: null, text, another scalar, a list of a given
length, or an object. -/
inductive Shape where
  | null
  | text
  | scalar
  | list (n : Nat)
  | object
  deriving DecidableEq, Repr

/-- The shape of a constant. -/
def Host.shape : Host → Shape
  | .scalar .null => .null
  | .scalar (.text _) => .text
  | .scalar _ => .scalar
  | .list items => .list items.length
  | .object .. => .object

/-- The shape a conversion to `t` gives a scalar of shape `s`: only a conversion to text makes
text, and only a conversion of text to an identifier makes text something else. -/
def Shape.coerced : Shape → DataType → Shape
  | .null, _ => .null
  | .text, .uuid => .scalar
  | .text, _ => .text
  | _, .text => .text
  | s, _ => s

theorem Shape.coerced_eq_self {s : Shape} {t : DataType} (ht : t ≠ .text) (hu : t ≠ .uuid) :
    s.coerced t = s := by
  cases s <;> cases t <;> simp_all [Shape.coerced]

theorem Shape.coerced_scalar {t : DataType} (ht : t ≠ .text) : Shape.scalar.coerced t = .scalar := by
  cases t <;> simp_all [Shape.coerced]

theorem map_eq_ok {ε α β : Type} {f : α → β} {x : Except ε α} {b : β} (h : x.map f = .ok b) :
    ∃ a, b = f a := by
  cases x with
  | error e => cases h
  | ok a => exact ⟨a, (Except.ok.inj h).symm⟩

namespace Value

theorem convertTotal_shape {v : Value} (hv : v.isNull = false) (t : DataType) :
    (Host.scalar (v.convertTotal t)).shape = if t = .text then .text else (Host.scalar v).shape := by
  cases v <;> cases t <;> simp_all [convertTotal, Host.shape, isNull]

/-- A conversion moves a scalar's shape as `Shape.coerced` says. -/
theorem coerce_shape {v w : Value} {t : DataType} (h : v.coerce t = .ok w) :
    (Host.scalar w).shape = (Host.scalar v).shape.coerced t := by
  unfold coerce at h
  split at h
  · cases h; rfl
  · cases h; rfl
  · cases h; rfl
  · cases h; rfl
  · rename_i hnull _ _ _
    have hv : v.isNull = false := by cases v <;> simp_all [isNull]
    split at h
    · -- a whole-number type: numbers become integers, other values stay as they are
      rename_i hint
      have ht : t ≠ .text := by rintro rfl; simp [DataType.isIntegral, DataType.isInteger] at hint
      have hu : t ≠ .uuid := by rintro rfl; simp [DataType.isIntegral, DataType.isInteger] at hint
      split at h
      · cases h; exact (Shape.coerced_scalar ht).symm
      · obtain ⟨_, rfl⟩ := map_eq_ok h; exact (Shape.coerced_scalar ht).symm
      · obtain ⟨_, rfl⟩ := map_eq_ok h; exact (Shape.coerced_scalar ht).symm
      · obtain ⟨_, rfl⟩ := map_eq_ok h; exact (Shape.coerced_scalar ht).symm
      · cases h
        rw [convertTotal_shape hv, if_neg ht, Shape.coerced_eq_self ht hu]
    · split at h
      · obtain ⟨_, rfl⟩ := map_eq_ok h; rfl
      · obtain ⟨_, rfl⟩ := map_eq_ok h; rfl
      · rename_i hfd htu
        cases h
        rw [convertTotal_shape hv]
        -- only text converted to an identifier changes shape otherwise, and that pair is excluded
        by_cases ht : t = .text
        · subst ht
          cases v <;> simp_all [Host.shape, Shape.coerced]
        · by_cases hu : t = .uuid
          · subst hu
            cases v <;> simp_all [Host.shape, Shape.coerced]
          · rw [if_neg ht, Shape.coerced_eq_self ht hu]

end Value

/-! ## Constants that look alike -/

/-- Two constants look alike to compiled text when the members named after them, in order, are
`path`: they have one shape, and where both have the first named member, those look alike at the
rest of the path. -/
def Host.AlikeAt : List String → Host → Host → Prop
  | [], h1, h2 => h1.shape = h2.shape
  | n :: rest, h1, h2 => h1.shape = h2.shape ∧
      ∀ v1 v2, h1.member? n = some v1 → h2.member? n = some v2 → Host.AlikeAt rest v1 v2

namespace Host

theorem AlikeAt.shape_eq {path : List String} {h1 h2 : Host} (h : AlikeAt path h1 h2) :
    h1.shape = h2.shape := by
  cases path with
  | nil => exact h
  | cons n rest => exact h.1

theorem alikeAt_scalar {path : List String} {w1 w2 : Value}
    (h : (scalar w1).shape = (scalar w2).shape) : AlikeAt path (scalar w1) (scalar w2) := by
  cases path with
  | nil => exact h
  | cons n rest => exact ⟨h, fun v1 v2 h1 _ => by simp [member?] at h1⟩

theorem isNull_eq (h : Host) : h.isNull = (h.shape == .null) := by
  cases h with
  | scalar v => cases v <;> rfl
  | list items => rfl
  | object id tn members => rfl

end Host

/-- A placeholder's text is fixed by the constant's shape: one `?` for each item of a list,
and one for anything else. -/
theorem placeholder_sql_eq {h1 h2 : Host} (hs : h1.shape = h2.shape) (args1 args2 : List Host) :
    (placeholder h1 args1).1.sql = (placeholder h2 args2).1.sql := by
  cases h1 with
  | list items1 =>
    cases h2 with
    | list items2 =>
      simp only [Host.shape, Shape.list.injEq] at hs
      simp [placeholder, List.map_const', hs]
    | scalar v => cases v <;> cases hs
    | object _ _ _ => cases hs
  | scalar v1 =>
    cases h2 with
    | list items2 => cases v1 <;> cases hs
    | scalar _ | object _ _ _ => rfl
  | object _ _ _ =>
    cases h2 with
    | list items2 => cases hs
    | scalar _ | object _ _ _ => rfl

theorem placeholder_fst (h : Host) (args : List Host) :
    (placeholder h args).1.value = some h ∧ (placeholder h args).1.dataType = none := by
  cases h <;> simp [placeholder]

theorem nonNull_of_shapes {o1 o2 : Option Host} {v1 : Value}
    (h : o1.map Host.shape = o2.map Host.shape) (hv1 : o1 = some (.scalar v1))
    (hn : v1.isNull = false) : ∃ v2, o2 = some (.scalar v2) ∧ v2.isNull = false := by
  subst hv1
  have hnull (v : Value) : (Host.scalar v).isNull = v.isNull := by cases v <;> rfl
  rcases o2 with _ | ⟨v2 | items | ⟨id, tn, members⟩⟩
  · cases h
  · refine ⟨v2, rfl, ?_⟩
    simp only [Option.map_some, Option.some.injEq] at h
    rw [← hnull, Host.isNull_eq, ← h, ← Host.isNull_eq, hnull, hn]
  · cases v1 <;> simp [Host.shape] at h
  · cases v1 <;> simp [Host.shape] at h

/-! ## Expressions that differ only in their constants -/

mutual

/-- Two expressions of one tree whose constants look alike at the members named after them:
a member pushes its name, a conversion passes the demand on, and every other node starts
afresh. -/
inductive Expr.Alike : List String → Expr → Expr → Prop
  | parameter {path} : Expr.Alike path .parameter .parameter
  | constant {path h1 h2} : Host.AlikeAt path h1 h2 → Expr.Alike path (.constant h1) (.constant h2)
  | member {path o1 o2 name} : Expr.Alike (name :: path) o1 o2 →
      Expr.Alike path (.member o1 name) (.member o2 name)
  | binary {path op l1 l2 r1 r2} : Expr.Alike [] l1 l2 → Expr.Alike [] r1 r2 →
      Expr.Alike path (.binary op l1 r1) (.binary op l2 r2)
  | callFree {path method args1 args2} : Expr.AlikeAll args1 args2 →
      Expr.Alike path (.call method none args1) (.call method none args2)
  | callMethod {path method o1 o2 args1 args2} : Expr.Alike [] o1 o2 →
      Expr.AlikeAll args1 args2 →
      Expr.Alike path (.call method (some o1) args1) (.call method (some o2) args2)
  | convert {path o1 o2 target} : Expr.Alike path o1 o2 →
      Expr.Alike path (.convert o1 target) (.convert o2 target)
  | unary {path op o1 o2} : Expr.Alike [] o1 o2 → Expr.Alike path (.unary op o1) (.unary op o2)
  | conditional {path a1 a2 b1 b2 c1 c2} : Expr.Alike [] a1 a2 → Expr.Alike [] b1 b2 →
      Expr.Alike [] c1 c2 → Expr.Alike path (.conditional a1 b1 c1) (.conditional a2 b2 c2)

/-- Arguments alike one by one. -/
inductive Expr.AlikeAll : List Expr → List Expr → Prop
  | nil : Expr.AlikeAll [] []
  | cons {e1 e2 rest1 rest2} : Expr.Alike [] e1 e2 → Expr.AlikeAll rest1 rest2 →
      Expr.AlikeAll (e1 :: rest1) (e2 :: rest2)

end

theorem Expr.AlikeAll.length_eq {es1 es2 : List Expr} (h : Expr.AlikeAll es1 es2) :
    es1.length = es2.length := by
  induction es1 generalizing es2 with
  | nil => cases h; rfl
  | cons e rest ih =>
    cases h with
    | cons _ hrest => simp [ih hrest]

namespace Expr.Alike

variable {path : List String} {method : String} {e2 : Expr}

theorem free2_inv {a b : Expr} (h : Expr.Alike path (.call method none [a, b]) e2) :
    ∃ a2 b2, e2 = .call method none [a2, b2] ∧ Expr.Alike [] a a2 ∧ Expr.Alike [] b b2 := by
  cases h with
  | callFree hargs =>
    cases hargs with
    | cons ha hrest =>
      cases hrest with
      | cons hb hnil => cases hnil; exact ⟨_, _, rfl, ha, hb⟩

theorem method1_inv {r p : Expr} (h : Expr.Alike path (.call method (some r) [p]) e2) :
    ∃ r2 p2, e2 = .call method (some r2) [p2] ∧ Expr.Alike [] r r2 ∧ Expr.Alike [] p p2 := by
  cases h with
  | callMethod hr hargs =>
    cases hargs with
    | cons hp hnil => cases hnil; exact ⟨_, _, rfl, hr, hp⟩

theorem method0_inv {r : Expr} (h : Expr.Alike path (.call method (some r) []) e2) :
    ∃ r2, e2 = .call method (some r2) [] ∧ Expr.Alike [] r r2 := by
  cases h with
  | callMethod hr hargs => cases hargs; exact ⟨_, rfl, hr⟩

theorem call_inv {o1 : Option Expr} {rest1 : List Expr}
    (h : Expr.Alike path (.call method o1 rest1) e2) :
    ∃ o2 rest2, e2 = .call method o2 rest2 ∧ (o2 = none → o1 = none) ∧
      (∀ r, o2 = some r → ∃ r', o1 = some r') ∧ Expr.AlikeAll rest1 rest2 := by
  cases h with
  | callFree hargs => exact ⟨none, _, rfl, fun _ => rfl, (fun _ h => by cases h), hargs⟩
  | callMethod _ hargs => exact ⟨some _, _, rfl, (fun h => by cases h), fun _ _ => ⟨_, rfl⟩, hargs⟩

end Expr.Alike

/-! ## What compiled text reads of a value -/

theorem map_shape_eq {path : List String} {o1 o2 : Option Host}
    (h : Option.Rel (Host.AlikeAt path) o1 o2) : o1.map Host.shape = o2.map Host.shape := by
  cases h with
  | none => rfl
  | some hh => simp [hh.shape_eq]

namespace Compiled

theorem carriesNull_eq_shape (c : Compiled) :
    c.carriesNull = ((c.value.map Host.shape).map (· == .null)).getD false := by
  unfold carriesNull
  rw [Option.map_map]
  congr 2
  funext h
  exact Host.isNull_eq h

theorem isText_eq_shape (c : Compiled) :
    c.isText = ((c.dataType.map DataType.isText).getD false || c.value.map Host.shape == some .text) := by
  unfold isText
  congr 1
  rcases c.value with _ | ⟨v | _ | _⟩
  · rfl
  · cases v <;> rfl
  · rfl
  · rfl

end Compiled

/-! ## Two runs of the compiler -/

/-- Compiling `e1` and anything alike to it gives one text, one type, and values alike at the
members named after them. -/
def SameText (m : Mapping) (e1 : Expr) (args1 : List Host) : Prop :=
  ∀ path e2 args2 c1 out1 c2 out2, Expr.Alike path e1 e2 →
    compile m e1 args1 = .ok (c1, out1) → compile m e2 args2 = .ok (c2, out2) →
    c1.sql = c2.sql ∧ c1.dataType = c2.dataType ∧ Option.Rel (Host.AlikeAt path) c1.value c2.value

/-- `SameText` for the arguments of a call: one list of texts. -/
def SameTexts (m : Mapping) (es1 : List Expr) (args1 : List Host) : Prop :=
  ∀ es2 args2 parts1 out1 parts2 out2, Expr.AlikeAll es1 es2 →
    compileAll m es1 args1 = .ok (parts1, out1) → compileAll m es2 args2 = .ok (parts2, out2) →
    parts1 = parts2

variable {m : Mapping}

theorem sameText_ofSql {path : List String} (s1 s2 : String) (h : s1 = s2) :
    (Compiled.ofSql s1).sql = (Compiled.ofSql s2).sql ∧
      (Compiled.ofSql s1).dataType = (Compiled.ofSql s2).dataType ∧
      Option.Rel (Host.AlikeAt path) (Compiled.ofSql s1).value (Compiled.ofSql s2).value :=
  ⟨by rw [h], rfl, .none⟩

theorem sameText_binary {op : BinaryOp} {l r : Expr} {args : List Host} (ihl : SameText m l args) (ihr : ∀ args, SameText m r args) :
    SameText m (.binary op l r) args := by
  intro path e2 args2 c1 out1 c2 out2 halike h1 h2
  cases halike with
  | binary hl hr =>
    obtain ⟨s1, cl1, mid1, cr1, hs1, hcl1, hcr1, rfl⟩ := compile_binary_ok h1
    obtain ⟨s2, cl2, mid2, cr2, hs2, hcl2, hcr2, rfl⟩ := compile_binary_ok h2
    obtain ⟨hsql_l, -, hval_l⟩ := ihl [] _ _ _ _ _ _ hl hcl1 hcl2
    obtain ⟨hsql_r, -, hval_r⟩ := ihr _ [] _ _ _ _ _ _ hr hcr1 hcr2
    -- the operator's text reads only whether either side is null, which the shapes decide
    have hnull : (cl1.carriesNull || cr1.carriesNull) = (cl2.carriesNull || cr2.carriesNull) := by
      rw [Compiled.carriesNull_eq_shape, Compiled.carriesNull_eq_shape cr1,
        Compiled.carriesNull_eq_shape cl2, Compiled.carriesNull_eq_shape cr2,
        map_shape_eq hval_l, map_shape_eq hval_r]
    obtain rfl : s1 = s2 := Option.some.inj (hs1.symm.trans hs2)
    exact sameText_ofSql _ _ (by rw [binarySql_eq, binarySql_eq, hnull, hsql_l, hsql_r])

/-- The calls that compile two operands in turn and put them into a fixed text. -/
theorem sameText_pair {a b : Expr} {args : List Host} (mk : Expr → Expr → Expr)
    (f : String → String → String)
    (hcomp : ∀ {a b args c out}, compile m (mk a b) args = .ok (c, out) → ∃ ca mid cb,
      compile m a args = .ok (ca, mid) ∧ compile m b mid = .ok (cb, out) ∧
        c = .ofSql (f ca.sql cb.sql))
    (hinv : ∀ {path e2}, Expr.Alike path (mk a b) e2 →
      ∃ a2 b2, e2 = mk a2 b2 ∧ Expr.Alike [] a a2 ∧ Expr.Alike [] b b2)
    (iha : SameText m a args) (ihb : ∀ args, SameText m b args) : SameText m (mk a b) args := by
  intro path e2 args2 c1 out1 c2 out2 halike h1 h2
  obtain ⟨a2, b2, rfl, ha, hb⟩ := hinv halike
  obtain ⟨ca1, mid1, cb1, hca1, hcb1, rfl⟩ := hcomp h1
  obtain ⟨ca2, mid2, cb2, hca2, hcb2, rfl⟩ := hcomp h2
  obtain ⟨hsql_a, -, -⟩ := iha [] _ _ _ _ _ _ ha hca1 hca2
  obtain ⟨hsql_b, -, -⟩ := ihb _ [] _ _ _ _ _ _ hb hcb1 hcb2
  exact sameText_ofSql _ _ (by rw [hsql_a, hsql_b])

theorem sameText_like {a b : Expr} {args : List Host} (iha : SameText m a args)
    (ihb : ∀ args, SameText m b args) : SameText m (.call "like" none [a, b]) args :=
  sameText_pair (fun a b => .call "like" none [a, b]) (fun x y => "(" ++ x ++ " like " ++ y ++ ")")
    compile_like_ok Expr.Alike.free2_inv iha ihb

theorem sameText_startsWith {receiver p : Expr} {args : List Host}
    (ihr : SameText m receiver args) (ihp : ∀ args, SameText m p args) :
    SameText m (.call "starts_with" (some receiver) [p]) args :=
  sameText_pair (fun r p => .call "starts_with" (some r) [p])
    (fun x y => "(" ++ x ++ " like (" ++ y ++ "||'%'))") compile_startsWith_ok
    Expr.Alike.method1_inv ihr ihp

theorem sameText_endsWith {receiver s : Expr} {args : List Host}
    (ihr : SameText m receiver args) (ihs : ∀ args, SameText m s args) :
    SameText m (.call "ends_with" (some receiver) [s]) args :=
  sameText_pair (fun r s => .call "ends_with" (some r) [s])
    (fun x y => "(" ++ x ++ " like ('%'||" ++ y ++ "))") compile_endsWith_ok
    Expr.Alike.method1_inv ihr ihs

theorem sameText_equals {receiver o : Expr} {args : List Host}
    (ihr : SameText m receiver args) (iho : ∀ args, SameText m o args) :
    SameText m (.call "equals" (some receiver) [o]) args :=
  sameText_pair (fun r o => .call "equals" (some r) [o])
    (fun x y => "(" ++ x ++ " = (" ++ y ++ "))") compile_equals_ok
    Expr.Alike.method1_inv ihr iho

/-- The calls that compile their receiver alone and wrap it in a fixed text. -/
theorem sameText_wrap {receiver : Expr} {args : List Host} (mk : Expr → Expr)
    (f : String → String)
    (hcomp : ∀ {r args c out}, compile m (mk r) args = .ok (c, out) → ∃ cr,
      compile m r args = .ok (cr, out) ∧ c = .ofSql (f cr.sql))
    (hinv : ∀ {path e2}, Expr.Alike path (mk receiver) e2 →
      ∃ r2, e2 = mk r2 ∧ Expr.Alike [] receiver r2)
    (ihr : SameText m receiver args) : SameText m (mk receiver) args := by
  intro path e2 args2 c1 out1 c2 out2 halike h1 h2
  obtain ⟨r2, rfl, hr⟩ := hinv halike
  obtain ⟨cr1, hcr1, rfl⟩ := hcomp h1
  obtain ⟨cr2, hcr2, rfl⟩ := hcomp h2
  obtain ⟨hsql, -, -⟩ := ihr [] _ _ _ _ _ _ hr hcr1 hcr2
  exact sameText_ofSql _ _ (by rw [hsql])

theorem sameText_toLower {receiver : Expr} {args : List Host} (ihr : SameText m receiver args) :
    SameText m (.call "to_lower" (some receiver) []) args :=
  sameText_wrap (fun r => .call "to_lower" (some r) []) (fun x => "(lower(" ++ x ++ "))")
    compile_toLower_ok Expr.Alike.method0_inv ihr

theorem sameText_toUpper {receiver : Expr} {args : List Host} (ihr : SameText m receiver args) :
    SameText m (.call "to_upper" (some receiver) []) args :=
  sameText_wrap (fun r => .call "to_upper" (some r) []) (fun x => "(upper(" ++ x ++ "))")
    compile_toUpper_ok Expr.Alike.method0_inv ihr

theorem sameText_in {collection item : Expr} {args : List Host}
    (ihc : SameText m collection []) (ihi : SameText m item args) :
    SameText m (.call "contains" none [collection, item]) args := by
  intro path e2 args2 c1 out1 c2 out2 halike h1 h2
  obtain ⟨coll2, item2, rfl, hc, hi⟩ := Expr.Alike.free2_inv halike
  obtain ⟨cc1, own1, ci1, mid1, hcc1, hci1, -, rfl⟩ := compile_in_ok h1
  obtain ⟨cc2, own2, ci2, mid2, hcc2, hci2, -, rfl⟩ := compile_in_ok h2
  obtain ⟨hsql_c, -, -⟩ := ihc [] _ _ _ _ _ _ hc hcc1 hcc2
  obtain ⟨hsql_i, -, -⟩ := ihi [] _ _ _ _ _ _ hi hci1 hci2
  exact sameText_ofSql _ _ (by rw [hsql_c, hsql_i])

/-- A method membership test reads whether its receiver is text, which its type and its value's
shape decide. -/
theorem sameText_contains {receiver item : Expr} {args : List Host}
    (ihr : SameText m receiver []) (ihown : ∀ own, SameText m item (args ++ own))
    (ihi : SameText m item args) :
    SameText m (.call "contains" (some receiver) [item]) args := by
  intro path e2 args2 c1 out1 c2 out2 halike h1 h2
  obtain ⟨recv2, item2, rfl, hr, hi⟩ := Expr.Alike.method1_inv halike
  obtain ⟨cr1, own1, hcr1, hb1⟩ := compile_contains_ok h1
  obtain ⟨cr2, own2, hcr2, hb2⟩ := compile_contains_ok h2
  obtain ⟨hsql_r, htype_r, hval_r⟩ := ihr [] _ _ _ _ _ _ hr hcr1 hcr2
  have htext : cr1.isText = cr2.isText := by
    rw [Compiled.isText_eq_shape, Compiled.isText_eq_shape cr2, htype_r, map_shape_eq hval_r]
  rcases hb1 with ⟨ht1, ci1, hci1, rfl⟩ | ⟨ht1, ci1, mid1, hci1, -, rfl⟩ <;>
    rcases hb2 with ⟨ht2, ci2, hci2, rfl⟩ | ⟨ht2, ci2, mid2, hci2, -, rfl⟩
  · obtain ⟨hsql_i, -, -⟩ := ihown own1 [] _ _ _ _ _ _ hi hci1 hci2
    exact sameText_ofSql _ _ (by rw [hsql_r, hsql_i])
  · rw [htext, ht2] at ht1; cases ht1
  · rw [htext, ht2] at ht1; cases ht1
  · obtain ⟨hsql_i, -, -⟩ := ihi [] _ _ _ _ _ _ hi hci1 hci2
    exact sameText_ofSql _ _ (by rw [hsql_r, hsql_i])

/-! ### The arms of a call, carried to an alike call -/

section Arms

variable {method M : String} {o1 o2 : Option Expr} {r1 r2 : List Expr}

theorem not_free_arm (ho : o2 = none → o1 = none) (hl : r1.length = r2.length)
    (h : ∀ a b, method = M → o1 = none → r1 = [a, b] → False) :
    ∀ a b, method = M → o2 = none → r2 = [a, b] → False := by
  intro a b hm ho2 hr
  obtain ⟨x, y, rfl⟩ := List.length_eq_two.1 (by rw [hl, hr]; rfl)
  exact h x y hm (ho ho2) rfl

theorem not_method1_arm (ho : ∀ r, o2 = some r → ∃ r', o1 = some r')
    (hl : r1.length = r2.length) (h : ∀ recv p, method = M → o1 = some recv → r1 = [p] → False) :
    ∀ recv p, method = M → o2 = some recv → r2 = [p] → False := by
  intro recv p hm ho2 hr
  obtain ⟨r', hr'⟩ := ho recv ho2
  obtain ⟨x, rfl⟩ := List.length_eq_one_iff.1 (by rw [hl, hr]; rfl)
  exact h r' x hm hr' rfl

theorem not_method0_arm (ho : ∀ r, o2 = some r → ∃ r', o1 = some r')
    (hl : r1.length = r2.length) (h : ∀ recv, method = M → o1 = some recv → r1 = [] → False) :
    ∀ recv, method = M → o2 = some recv → r2 = [] → False := by
  intro recv hm ho2 hr
  obtain ⟨r', hr'⟩ := ho recv ho2
  exact h r' hm hr' (List.eq_nil_of_length_eq_zero (by rw [hl, hr]; rfl))

end Arms

/-- Any other call is written by its name and its arguments' texts; an alike call takes the
same arm, since the arms are told apart by the method, the object's presence and the number of
arguments. -/
theorem sameText_call {method : String} {object : Option Expr} {rest : List Expr}
    {args : List Host}
    (h1 : ∀ a b, method = "like" → object = none → rest = [a, b] → False)
    (h2 : ∀ coll item, method = "contains" → object = none → rest = [coll, item] → False)
    (h3 : ∀ recv item, method = "contains" → object = some recv → rest = [item] → False)
    (h4 : ∀ recv p, method = "starts_with" → object = some recv → rest = [p] → False)
    (h5 : ∀ recv s, method = "ends_with" → object = some recv → rest = [s] → False)
    (h6 : ∀ recv o, method = "equals" → object = some recv → rest = [o] → False)
    (h7 : ∀ recv, method = "to_lower" → object = some recv → rest = [] → False)
    (h8 : ∀ recv, method = "to_upper" → object = some recv → rest = [] → False)
    (ih : SameTexts m rest args) : SameText m (.call method object rest) args := by
  intro path e2 args2 c1 out1 c2 out2 halike hc1 hc2
  obtain ⟨o2, rest2, rfl, hnone, hsome, hargs⟩ := Expr.Alike.call_inv halike
  have hl := hargs.length_eq
  obtain ⟨parts1, hp1, rfl⟩ := compile_call_ok h1 h2 h3 h4 h5 h6 h7 h8 hc1
  obtain ⟨parts2, hp2, rfl⟩ := compile_call_ok (not_free_arm hnone hl h1)
    (not_free_arm hnone hl h2) (not_method1_arm hsome hl h3) (not_method1_arm hsome hl h4)
    (not_method1_arm hsome hl h5) (not_method1_arm hsome hl h6) (not_method0_arm hsome hl h7)
    (not_method0_arm hsome hl h8) hc2
  exact sameText_ofSql _ _ (by rw [ih _ _ _ _ _ _ hargs hp1 hp2])

theorem sameText_constant (h : Host) (args : List Host) : SameText m (.constant h) args := by
  intro path e2 args2 c1 out1 c2 out2 halike hc1 hc2
  cases halike with
  | constant hh =>
    rw [compile_constant, Except.ok.injEq] at hc1 hc2
    obtain rfl : (placeholder h args).1 = c1 := congrArg Prod.fst hc1
    obtain rfl : (placeholder _ args2).1 = c2 := congrArg Prod.fst hc2
    obtain ⟨hv1, hd1⟩ := placeholder_fst h args
    obtain ⟨hv2, hd2⟩ := placeholder_fst _ args2
    exact ⟨placeholder_sql_eq hh.shape_eq _ _, by rw [hd1, hd2], by rw [hv1, hv2]; exact .some hh⟩

/-- A conversion reads whether its operand is a non-null scalar, and converts it; alike operands
go the same way, and their conversions keep them alike. -/
theorem sameText_convert {operand : Expr} {target : DataType} {args : List Host}
    (ih : SameText m operand args) : SameText m (.convert operand target) args := by
  intro path e2 args2 c1 out1 c2 out2 halike hc1 hc2
  cases halike with
  | convert ho =>
    obtain ⟨r1, mid1, hr1, hb1⟩ := compile_convert_ok hc1
    obtain ⟨r2, mid2, hr2, hb2⟩ := compile_convert_ok hc2
    obtain ⟨hsql, htype, hval⟩ := ih path _ _ _ _ _ _ ho hr1 hr2
    have hshapes := map_shape_eq hval
    rcases hb1 with ⟨v1, w1, hv1, hn1, hw1, rfl, -⟩ | ⟨hn1, rfl, -⟩ <;>
      rcases hb2 with ⟨v2, w2, hv2, hn2, hw2, rfl, -⟩ | ⟨hn2, rfl, -⟩
    · rw [hv1, hv2] at hval
      cases hval with
      | some hh =>
        have hw : (Host.scalar w1).shape = (Host.scalar w2).shape := by
          rw [Value.coerce_shape hw1, Value.coerce_shape hw2, hh.shape_eq]
        exact ⟨hsql, rfl, .some (Host.alikeAt_scalar hw)⟩
    · obtain ⟨v2, hv2, hn⟩ := nonNull_of_shapes hshapes hv1 hn1
      rw [hn2 v2 hv2] at hn
      cases hn
    · obtain ⟨v1, hv1, hn⟩ := nonNull_of_shapes hshapes.symm hv2 hn2
      rw [hn1 v1 hv1] at hn
      cases hn
    · exact ⟨hsql, rfl, hval⟩

theorem sameText_column {name : String} {args : List Host} : SameText m (.member .parameter name) args := by
  intro path e2 args2 c1 out1 c2 out2 halike hc1 hc2
  cases halike with
  | member ho =>
    cases ho
    obtain ⟨col1, hcol1, rfl, -⟩ := compile_column_ok hc1
    obtain ⟨col2, hcol2, rfl, -⟩ := compile_column_ok hc2
    obtain rfl : col1 = col2 := Option.some.inj (hcol1.symm.trans hcol2)
    exact ⟨rfl, rfl, .none⟩

/-- A member of an object constant is bound in its place; the members named after it look
alike, which is what the demand on the object said. -/
theorem sameText_member {object : Expr} {name : String} {args : List Host}
    (ho : object = .parameter → False) (ih : SameText m object args) :
    SameText m (.member object name) args := by
  intro path e2 args2 c1 out1 c2 out2 halike hc1 hc2
  cases halike with
  | member hobj =>
    rename_i o2
    have ho2 : o2 ≠ .parameter := by
      rintro rfl
      cases hobj
      exact ho rfl
    obtain ⟨recv1, mid1, id1, tn1, ms1, v1, hr1, hv1, hm1, hc1'⟩ := compile_member_ok ho hc1
    obtain ⟨recv2, mid2, id2, tn2, ms2, v2, hr2, hv2, hm2, hc2'⟩ := compile_member_ok ho2 hc2
    obtain ⟨-, -, hval⟩ := ih (name :: path) _ _ _ _ _ _ hobj hr1 hr2
    rw [hv1, hv2] at hval
    cases hval with
    | some hh =>
      have hmem : Host.AlikeAt path v1 v2 := hh.2 v1 v2 hm1 hm2
      obtain rfl : c1 = (placeholder v1 mid1.dropLast).1 := congrArg Prod.fst hc1'
      obtain rfl : c2 = (placeholder v2 mid2.dropLast).1 := congrArg Prod.fst hc2'
      obtain ⟨hpv1, hpd1⟩ := placeholder_fst v1 mid1.dropLast
      obtain ⟨hpv2, hpd2⟩ := placeholder_fst v2 mid2.dropLast
      exact ⟨placeholder_sql_eq hmem.shape_eq _ _, by rw [hpd1, hpd2],
        by rw [hpv1, hpv2]; exact .some hmem⟩

theorem sameText_of_fails {e : Expr} {args : List Host}
    (h : ∀ c out, compile m e args = .ok (c, out) → False) : SameText m e args :=
  fun _ _ _ c1 out1 _ _ _ hc1 _ => (h c1 out1 hc1).elim

theorem sameTexts_nil (args : List Host) : SameTexts m [] args := by
  intro es2 args2 parts1 out1 parts2 out2 halike h1 h2
  cases halike
  rw [(compileAll_nil_ok h1).1, (compileAll_nil_ok h2).1]

theorem sameTexts_cons {e : Expr} {rest : List Expr} {args : List Host}
    (ihe : SameText m e args) (ihrest : ∀ args, SameTexts m rest args) :
    SameTexts m (e :: rest) args := by
  intro es2 args2 parts1 out1 parts2 out2 halike h1 h2
  cases halike with
  | cons he hrest =>
    obtain ⟨c1, mid1, cs1, hc1, hcs1, rfl⟩ := compileAll_cons_ok h1
    obtain ⟨c2, mid2, cs2, hc2, hcs2, rfl⟩ := compileAll_cons_ok h2
    obtain ⟨hsql, -, -⟩ := ihe [] _ _ _ _ _ _ he hc1 hc2
    rw [hsql, ihrest _ _ _ _ _ _ _ hrest hcs1 hcs2]

/-- Compiled text and type agree on alike expressions, by induction along the recursion of
`compile`. -/
theorem sameText_all (m : Mapping) :
    (∀ e args, SameText m e args) ∧ (∀ es args, SameTexts m es args) :=
  compile.mutual_induct m (SameText m) (SameTexts m)
    (fun _ _ _ _ _ _ ihl ihr => sameText_binary ihl ihr)
    (fun _ _ _ _ hs _ _ => sameText_of_fails fun _ _ h => by
      obtain ⟨s, -, -, -, hs', -⟩ := compile_binary_ok h
      simp [hs] at hs')
    (fun _ _ _ iha ihb => sameText_like iha ihb)
    (fun _ _ _ ihc ihi => sameText_in ihc ihi)
    (fun _ _ _ ihr ihown ihi => sameText_contains ihr ihown ihi)
    (fun _ _ _ ihr ihp => sameText_startsWith ihr ihp)
    (fun _ _ _ ihr ihs => sameText_endsWith ihr ihs)
    (fun _ _ _ ihr iho => sameText_equals ihr iho)
    (fun _ _ ihr => sameText_toLower ihr)
    (fun _ _ ihr => sameText_toUpper ihr)
    (fun _ _ _ _ h1 h2 h3 h4 h5 h6 h7 h8 ih => sameText_call h1 h2 h3 h4 h5 h6 h7 h8 ih)
    sameText_constant
    (fun _ _ _ ih => sameText_convert ih)
    (fun _ _ _ _ => sameText_column)
    (fun _ _ hcol => sameText_of_fails fun _ _ h => by
      obtain ⟨col, hcol', -⟩ := compile_column_ok h
      simp [hcol] at hcol')
    (fun _ _ _ ho ih => sameText_member ho ih)
    (fun other _ h1 h2 h3 h4 _ h6 => sameText_of_fails fun _ _ h => by
      cases other with
      | binary op l r => exact h1 op l r rfl
      | call method object callArgs => exact h2 _ _ _ rfl
      | constant v => exact h3 v rfl
      | convert o t => exact h4 o t rfl
      | member o name => exact h6 o name rfl
      | parameter | unary | conditional => cases h)
    sameTexts_nil
    (fun _ _ _ ihe ihrest => sameTexts_cons ihe ihrest)

/-- Compiled text depends on the constants only through their shapes: two expressions of one
tree whose constants have the same shape (null, text, another scalar, a list of one length, an
object whose members named after it look alike in turn) compile, when both compile, to the
same text, whatever the values and whatever arguments come before. -/
theorem compile_text_depends_only_on_shapes {m : Mapping} {e1 e2 : Expr}
    (halike : Expr.Alike [] e1 e2) {args1 args2 out1 out2 : List Host} {c1 c2 : Compiled}
    (h1 : compile m e1 args1 = .ok (c1, out1)) (h2 : compile m e2 args2 = .ok (c2, out2)) :
    c1.sql = c2.sql :=
  ((sameText_all m).1 e1 args1 [] e2 args2 c1 out1 c2 out2 halike h1 h2).1

/-- Two text searches with different texts compile to one statement. -/
theorem text_search_ignores_texts :
    ∃ c1 out1 c2 out2,
      compile default (.call "contains" (some (.constant (.scalar (.text "ab"))))
        [.constant (.scalar (.text "b"))]) [] = .ok (c1, out1) ∧
      compile default (.call "contains" (some (.constant (.scalar (.text "xyz"))))
        [.constant (.scalar (.text "q"))]) [] = .ok (c2, out2) ∧
      c1.sql = c2.sql :=
  ⟨_, _, _, _, rfl, rfl, @compile_text_depends_only_on_shapes default
    (.call "contains" (some (.constant (.scalar (.text "ab")))) [.constant (.scalar (.text "b"))])
    (.call "contains" (some (.constant (.scalar (.text "xyz")))) [.constant (.scalar (.text "q"))])
    (.callMethod (.constant rfl) (.cons (.constant rfl) .nil)) [] [] _ _ _ _ rfl rfl⟩

end RecordMap
