import RecordMap.Proofs.Sql.TransactionControl

/-!
# Statements that leave the transaction alone

Six statements control a connection's transaction: `begin`, `commit`, `rollback` (to a savepoint
or not), `savepoint` and `release` (`Statement.controlsTransaction`); compiling any other gives a
plan that controls none either (`compileStatement_plan`), and so does compiling it again against a
newer schema. Whether statement text controls the transaction is read off its first statement
(`controlsTransaction`), which is all the engine prepares (`Engine.prepare_ordinary`).

Text that starts with the word `insert`, `update` or `delete` reads as a data statement or not at
all (`controlsTransaction_of_data`): the parser's branch for those words builds nothing else.
-/

namespace RecordMap.Sql

/-- Whether a statement begins, ends or moves the transaction. -/
def Statement.controlsTransaction : Statement → Bool
  | .begin _ | .commit | .rollback _ | .savepoint _ | .release _ => true
  | _ => false

/-- Whether a plan begins, ends or moves the transaction. -/
def Plan.controlsTransaction : Plan → Bool
  | .begin _ | .commit | .rollback | .rollbackTo _ | .savepoint _ | .release _ => true
  | _ => false

/-- Whether statement text controls the transaction: its first statement does. -/
def controlsTransaction (text : String) : Bool :=
  match parse text with
  | .ok parsed => parsed.statement.any Statement.controlsTransaction
  | .error _ => false

/-! ## Compiling -/

/-- A computation every result of which satisfies `P`. -/
def Results {α : Type} (P : α → Prop) (x : Except Fault α) : Prop :=
  ∀ a, x = .ok a → P a

namespace Results

variable {α β : Type} {P : β → Prop}

theorem pure {b : β} (h : P b) : Results P (Pure.pure b : Except Fault β) := by
  rintro a ⟨⟩
  exact h

theorem bind {x : Except Fault α} {f : α → Except Fault β} (hf : ∀ a, Results P (f a)) :
    Results P (x >>= f) := by
  intro b h
  cases hx : x with
  | error e =>
    rw [hx] at h
    cases h
  | ok a =>
    rw [hx] at h
    exact hf a b h

end Results

theorem compilePragma_plan (name : String) (arg : Option String) :
    (compilePragma name arg).1.controlsTransaction = false := by
  unfold compilePragma
  dsimp only
  -- every branch is a pragma plan or does nothing
  repeat' split
  all_goals rfl

/-- Compiling a statement that controls no transaction gives a plan that controls none. -/
theorem compileStatement_plan (s : Store) (enforced : Bool) {st : Option Statement}
    (hst : st.any Statement.controlsTransaction = false) :
    Results (fun r : Plan × List String => r.1.controlsTransaction = false)
      (compileStatement s enforced st) := by
  cases st with
  | none => exact Results.pure rfl
  | some x =>
    unfold compileStatement
    cases x with
    | query q => exact Results.bind fun _ => Results.pure rfl
    | insert =>
      exact Results.bind fun _ => Results.bind fun _ => Results.bind fun _ => Results.pure rfl
    | update =>
      exact Results.bind fun _ => Results.bind fun _ => Results.bind fun _ => Results.pure rfl
    | delete =>
      exact Results.bind fun _ => Results.bind fun _ => Results.bind fun _ => Results.pure rfl
    | createTable c => exact Results.bind fun _ => Results.pure rfl
    | createTableAs =>
      refine Results.bind fun r => ?_
      cases r with
      | some _ => exact Results.pure rfl
      | none => exact Results.pure rfl
    | createIndex c => exact Results.bind fun _ => Results.pure rfl
    | createView => exact Results.bind fun _ => Results.pure rfl
    | createTrigger c => exact Results.bind fun _ => Results.pure rfl
    | drop => exact Results.bind fun _ => Results.pure rfl
    | alterTable => exact Results.bind fun _ => Results.pure rfl
    | pragma name arg => exact Results.pure (compilePragma_plan name arg)
    | vacuum | analyze | reindex | explain => exact Results.pure rfl
    | «begin» | commit | rollback | savepoint | release => cases hst

/-- What preparing text gives: the text's first statement, compiled against what the connection
sees. -/
theorem Engine.prepare_spec {e : Engine} {i : Nat} {text : String} {p : Prepared}
    (h : e.prepare i text = .ok p) :
    ∃ parsed, parse text = .ok parsed ∧ p.statement = parsed.statement ∧
      compileStatement (e.view i) (e.handle i).foreignKeys p.statement = .ok (p.plan, p.columns) ∧
      p.schema = (e.view i).schemaVersion := by
  unfold Engine.prepare at h
  cases hp : parse text with
  | error f =>
    rw [hp] at h
    cases h
  | ok parsed =>
    rw [hp] at h
    change (compileStatement (e.view i) (e.handle i).foreignKeys parsed.statement >>= _) = _ at h
    cases hc : compileStatement (e.view i) (e.handle i).foreignKeys parsed.statement with
    | error f =>
      rw [hc] at h
      cases h
    | ok r =>
      rw [hc] at h
      cases h
      exact ⟨parsed, rfl, rfl, hc, rfl⟩

/-- Text that controls no transaction is prepared as a statement that controls none, with a plan
that controls none. -/
theorem Engine.prepare_ordinary {e : Engine} {i : Nat} {text : String} {p : Prepared}
    (h : e.prepare i text = .ok p) (hc : controlsTransaction text = false) :
    p.statement.any Statement.controlsTransaction = false ∧ p.plan.controlsTransaction = false := by
  obtain ⟨parsed, hp, hst, hcomp, -⟩ := Engine.prepare_spec h
  have hs : p.statement.any Statement.controlsTransaction = false := by
    unfold controlsTransaction at hc
    rw [hp] at hc
    rw [hst]
    exact hc
  exact ⟨hs, compileStatement_plan _ _ hs _ hcomp⟩

/-! ## Reading data statements -/

namespace Parser

/-- A parser every result of which satisfies `P`. -/
def Yields {α : Type} (P : α → Prop) (p : Parser α) : Prop :=
  ∀ src st a st', p src st = .ok (a, st') → P a

namespace Yields

variable {α β : Type} {P : β → Prop}

theorem pure {b : β} (h : P b) : Yields P (Pure.pure b : Parser β) := by
  intro src st a st' hp
  cases hp
  exact h

theorem bind {p : Parser α} {f : α → Parser β} (hf : ∀ a, Yields P (f a)) : Yields P (p >>= f) := by
  intro src st b st' h
  cases hp : p src st with
  | error e =>
    rw [bind_of_error _ hp] at h
    cases h
  | ok r =>
    rw [bind_of_ok _ hp] at h
    exact hf r.1 src r.2 b st' h

theorem ite {c : Prop} [Decidable c] {p q : Parser β} (hp : Yields P p) (hq : Yields P q) :
    Yields P (if c then p else q) := by
  split
  · exact hp
  · exact hq

theorem throw (e : Fault) : Yields P (MonadExcept.throw e : Parser β) := by
  intro src st a st' h
  cases h

theorem failHere : Yields P (Parser.failHere : Parser β) := by
  unfold Parser.failHere
  exact bind fun _ => throw _

end Yields

/-- A result that is a data statement. -/
abbrev DataResult (s : Statement) : Prop := s.controlsTransaction = false

theorem insertStatement_yields (fuel : Nat) (ctes : Option With) (conflict : Conflict) :
    Yields DataResult (insertStatement fuel ctes conflict) := by
  unfold insertStatement
  dsimp only
  -- each step is a bind, a branch or a match on a read tuple, and every branch ends in an insert
  repeat' first
    | exact Yields.pure rfl
    | refine Yields.bind fun _ => ?_
    | split

theorem updateStatement_yields (fuel : Nat) (ctes : Option With) (conflict : Conflict) :
    Yields DataResult (updateStatement fuel ctes conflict) := by
  unfold updateStatement
  dsimp only
  repeat' first
    | exact Yields.pure rfl
    | refine Yields.bind fun _ => ?_
    | split

theorem deleteStatement_yields (fuel : Nat) (ctes : Option With) :
    Yields DataResult (deleteStatement fuel ctes) := by
  unfold deleteStatement
  dsimp only
  repeat' first
    | exact Yields.pure rfl
    | refine Yields.bind fun _ => ?_
    | split

theorem statementBody_yields (fuel : Nat) (ctes : Option With) :
    Yields DataResult (statementBody fuel ctes) := by
  unfold statementBody
  refine Yields.bind fun t => ?_
  split
  · exact Yields.bind fun _ => Yields.pure rfl
  · exact Yields.bind fun _ => Yields.pure rfl
  · exact Yields.bind fun _ => Yields.bind fun _ => insertStatement_yields _ _ _
  · exact Yields.bind fun _ => insertStatement_yields _ _ _
  · exact Yields.bind fun _ => Yields.bind fun _ => updateStatement_yields _ _ _
  · exact Yields.bind fun _ => Yields.bind fun _ => deleteStatement_yields _ _
  · exact Yields.failHere

variable {src : Lexed} {st : ParseState}

theorem statement_of_data {fuel : Nat} {t : Token} {w : String}
    (ht : src.tokens.getD st.pos (lastToken src) = t) (k : t.kind = .word w)
    (hw : w.toUpper = "INSERT" ∨ w.toUpper = "UPDATE" ∨ w.toUpper = "DELETE") :
    statement fuel src st = statementBody fuel none src st := by
  unfold statement
  rw [bind_of_ok _ (current_eq ht (by rw [k]; rfl)), upper?_of_word k]
  rcases hw with hw | hw | hw <;> simp only [hw]

end Parser

open RecordMap.Sql.Parser

/-- Text whose first token is the word `insert`, `update` or `delete` controls no transaction. -/
theorem controlsTransaction_of_first {text : String} {t : Token} {rest : List Token} {w : String}
    (htok : tokenize text = t :: rest) (k : t.kind = .word w)
    (hw : w.toUpper = "INSERT" ∨ w.toUpper = "UPDATE" ∨ w.toUpper = "DELETE") :
    controlsTransaction text = false := by
  let src : Lexed := ⟨(tokenize text).toArray, text.toList.toArray⟩
  have h0 : src.tokens.getD 0 (lastToken src) = t := by
    show (tokenize text).toArray.getD 0 _ = t
    rw [htok]
    rfl
  have hskip : skipSemicolons src.tokens.size src ⟨0, #[]⟩ = .ok ((), ⟨0, #[]⟩) :=
    skipSemicolons_eq h0 (by rw [k]; rfl) (by rw [Token.isSymbol, k]; rfl) _
  have hfinish : (t.kind == .finish) = false := by
    rw [k]
    rfl
  unfold controlsTransaction parse
  dsimp only [ReaderT.run, StateT.run]
  rw [bind_of_ok _ hskip, bind_of_ok _ (current_eq h0 (by rw [k]; rfl))]
  simp only [hfinish, Bool.false_eq_true, if_false]
  -- the statement read is a data statement, and what follows it keeps it
  cases hs : statement (16 * src.tokens.size + 64) src ⟨0, #[]⟩ with
  | error f =>
    rw [bind_of_error _ hs]
  | ok r =>
    obtain ⟨s, st₁⟩ := r
    have hdata : s.controlsTransaction = false := by
      rw [statement_of_data h0 k hw] at hs
      exact statementBody_yields _ none src ⟨0, #[]⟩ s st₁ hs
    have htail : Yields (fun r : Option Statement × Nat => r.1 = some s)
        (do
          let u ← current
          if u.isSymbol ";" then Pure.pure (some s, u.stop)
          else if u.kind == .finish then Pure.pure (some s, text.length)
          else Parser.failHere) :=
      Yields.bind fun _ => Yields.ite (Yields.pure rfl) (Yields.ite (Yields.pure rfl) Yields.failHere)
    rw [bind_of_ok _ hs]
    cases hr : (do
        let u ← current
        if u.isSymbol ";" then Pure.pure (some s, u.stop)
        else if u.kind == .finish then Pure.pure (some s, text.length)
        else Parser.failHere : Parser (Option Statement × Nat)) src st₁ with
    | error f => rfl
    | ok r' =>
      obtain ⟨⟨s', stop⟩, c⟩ := r'
      have hs' : s' = some s := htail src st₁ _ c hr
      subst hs'
      exact hdata

theorem toUpper_ofList_eq {w : List Char} {s : String} (h : w.map Char.toUpper = s.toList) :
    (String.ofList w).toUpper = s := by
  apply String.toList_injective
  rw [← h, String.toUpper, String.toList_map, String.toList_ofList]

/-- Text that starts with the word `insert`, `update` or `delete`, in any case, and a space
controls no transaction. -/
theorem controlsTransaction_of_data {text : String} {w rest : List Char} (hw : plainWord w = true)
    (htext : text.toList = w ++ ' ' :: rest)
    (hkw : w.map Char.toUpper = "INSERT".toList ∨ w.map Char.toUpper = "UPDATE".toList ∨
      w.map Char.toUpper = "DELETE".toList) :
    controlsTransaction text = false := by
  have hlen : text.length = (w ++ ' ' :: rest).length := by rw [← htext, String.length_toList]
  have htok : tokenize text = ⟨.word (String.ofList w), String.ofList w, 0, 0, 0 + w.length⟩ ::
      tokenize.go (' ' :: rest) (0 + byteCount w) (0 + w.length) (w ++ ' ' :: rest).length := by
    unfold tokenize
    rw [htext, hlen]
    exact tokenize_go_word hw (show ∀ d ∈ (' ' :: rest).head?, d = ' ' by simp) 0 0 _
  exact controlsTransaction_of_first htok rfl (hkw.imp toUpper_ofList_eq (Or.imp toUpper_ofList_eq
    toUpper_ofList_eq))

end RecordMap.Sql
