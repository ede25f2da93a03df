import SparqlExpr.Proofs.Execution
import SparqlExpr.Proofs.Outcome

/-!
The connectives `||` and `&&` evaluated operand by operand. `Evaluator.operandRuns` evaluates a
list of operands one after another, each from the state the one before it left, and records the
effective boolean value of each with the state it leaves; `connectiveRun` reads the result off
those runs: the first run that decides (it has the deciding value, or fails with an error that is
not a query error) gives the result and the final state; when none decides, the first query error
is reported, or else the other boolean, after the last run.

The main statements:

* `exec_eval_connective`: a connective of two operands or more, started before cancellation,
  runs exactly as `connectiveRun` says, so it evaluates the operands from the left and stops at
  the first that decides;
* `exec_eval_connective_nested`: a connective of three operands or more runs as the same
  connective of two operands, the first of them the connective of all but the last;
* `exec_eval_connective_pair`: on two operands whose errors are query errors, the result
  follows SPARQL's truth tables of logical-or and logical-and (`logicalTable`).
-/

namespace SparqlExpr

open EvalM

/-- The special form of `||` (deciding value true) or `&&` (deciding value false). -/
def SpecialForm.connective : Bool → SpecialForm
  | true => .disjunction
  | false => .conjunction

/-- The call of the connective with deciding value `decisive` on operand expressions. -/
def Expression.connective (decisive : Bool) (args : List Expression) : Expression :=
  .call (.operator (.special (SpecialForm.connective decisive))) args

/-- Whether an operand decides a connective: its effective boolean value is the deciding
value, or it failed with an error that is not a query error. -/
def Decides (decisive : Bool) : Outcome Bool → Bool
  | .ok b => b == decisive
  | .error e => !e.isQueryError

/-- The error of an outcome, if it is one. -/
def Outcome.error? {α : Type} : Outcome α → Option EvalError
  | .ok _ => none
  | .error e => some e

/-- The state after the last of a list of runs, or `s` when there are none. -/
def lastState (runs : List (Outcome Bool × EvalState)) (s : EvalState) : EvalState :=
  (runs.getLast?.map Prod.snd).getD s

/-- What a connective with deciding value `decisive` gives after operand runs in order, with
`deferred` the first query error met before them: the first deciding run's value and state;
when no run decides, the first query error, or else the other boolean, after the last run. -/
def connectiveRun (decisive : Bool) (deferred : Option EvalError)
    (runs : List (Outcome Bool × EvalState)) (s : EvalState) : Outcome Term × EvalState :=
  match runs.find? fun r => Decides decisive r.1 with
  | some r => (r.1.map Term.boolean, r.2)
  | none =>
    (match deferred.or (runs.findSome? fun r => Outcome.error? r.1) with
      | some e => .error e
      | none => .ok (Term.boolean !decisive),
     lastState runs s)

namespace Evaluator

variable (ev : Evaluator) (row : Solution)

/-- The effective boolean values of operands evaluated one after another, each from the state
the one before it left, with the state each evaluation leaves. -/
def operandRuns : List Expression → EvalState → List (Outcome Bool × EvalState)
  | [], _ => []
  | a :: rest, s =>
    ((exec (ev.eval row a) s).1 >>= Term.ebv, (exec (ev.eval row a) s).2) ::
      operandRuns rest (exec (ev.eval row a) s).2

end Evaluator

section Runs

variable {decisive : Bool} {deferred : Option EvalError} {s : EvalState}

@[simp] theorem lastState_nil : lastState [] s = s := rfl

theorem lastState_cons (r : Outcome Bool × EvalState) (runs : List (Outcome Bool × EvalState)) :
    lastState (r :: runs) s = lastState runs r.2 := by
  cases runs with
  | nil => rfl
  | cons r' runs => simp [lastState, List.getLast?_cons]

theorem lastState_append (runs runs' : List (Outcome Bool × EvalState)) :
    lastState (runs ++ runs') s = lastState runs' (lastState runs s) := by
  induction runs generalizing s with
  | nil => rfl
  | cons r runs ih => rw [List.cons_append, lastState_cons, lastState_cons, ih]

theorem connectiveRun_nil :
    connectiveRun decisive deferred [] s =
      (match deferred with
        | some e => .error e
        | none => .ok (Term.boolean !decisive), s) := by
  cases deferred <;> rfl

/-- A run that decides ends the connective; any other is passed, its error kept if it is the
first. -/
theorem connectiveRun_cons (v : Outcome Bool) (s₁ : EvalState)
    (runs : List (Outcome Bool × EvalState)) :
    connectiveRun decisive deferred ((v, s₁) :: runs) s =
      if Decides decisive v then (v.map Term.boolean, s₁)
      else connectiveRun decisive (deferred.or v.error?) runs s₁ := by
  by_cases hv : Decides decisive v
  · simp [connectiveRun, hv]
  · simp only [connectiveRun, List.find?_cons, hv, Bool.false_eq_true, if_false,
      List.findSome?_cons, lastState_cons]
    cases deferred <;> cases v <;> simp [Outcome.error?]

theorem ebv_boolean (b : Bool) : (Term.boolean b).ebv = .ok b := by
  cases b <;> rfl

/-- The effective boolean value of a connective's boolean result is that boolean. -/
theorem map_boolean_bind_ebv (v : Outcome Bool) : v.map Term.boolean >>= Term.ebv = v := by
  cases v <;> simp [ebv_boolean]

/-- The runs of a connective whose first operand is the same connective over `runs`, the rest
run from the state it leaves, give what the connective over `runs` and then the rest gives. -/
theorem connectiveRun_nested (runs : List (Outcome Bool × EvalState))
    (tailOf : EvalState → List (Outcome Bool × EvalState)) :
    connectiveRun decisive none
        (((connectiveRun decisive none runs s).1 >>= Term.ebv, (connectiveRun decisive none runs s).2) ::
          tailOf (connectiveRun decisive none runs s).2) s =
      connectiveRun decisive none (runs ++ tailOf (lastState runs s)) s := by
  cases hfind : runs.find? fun r => Decides decisive r.1 with
  | some r =>
      -- the deciding run decides the outer connective too, and nothing after it is read
      have hinner : connectiveRun decisive none runs s = (r.1.map Term.boolean, r.2) := by
        simp [connectiveRun, hfind]
      have hdecides : Decides decisive r.1 = true := by simpa using List.find?_some hfind
      rw [hinner, map_boolean_bind_ebv, connectiveRun_cons, if_pos hdecides]
      simp [connectiveRun, List.find?_append, hfind]
  | none =>
      -- no run decides: the inner result passes, with the first query error if there is one
      have hnot : ∀ r ∈ runs, Decides decisive r.1 = false := by
        intro r hr
        simpa using List.find?_eq_none.mp hfind r hr
      cases hfirst : runs.findSome? fun r => Outcome.error? r.1 with
      | some e =>
          have hinner : connectiveRun decisive none runs s = (.error e, lastState runs s) := by
            simp [connectiveRun, hfind, hfirst]
          have hquery : Decides decisive (.error e) = false := by
            obtain ⟨r, hr, he⟩ := List.exists_of_findSome?_eq_some hfirst
            cases hv : r.1 with
            | ok b => simp [Outcome.error?, hv] at he
            | error e' =>
                simp only [Outcome.error?, hv, Option.some.injEq] at he
                simpa [← he, hv] using hnot r hr
          rw [hinner, connectiveRun_cons]
          simp only [Outcome.error_bind, hquery, Bool.false_eq_true, if_false, Outcome.error?]
          simp [connectiveRun, List.find?_append, hfind, List.findSome?_append, hfirst,
            lastState_append]
      | none =>
          have hinner : connectiveRun decisive none runs s =
              (.ok (Term.boolean !decisive), lastState runs s) := by
            simp [connectiveRun, hfind, hfirst]
          rw [hinner, connectiveRun_cons]
          simp only [Outcome.ok_bind, ebv_boolean, Decides, Outcome.error?]
          cases decisive <;>
            simp [connectiveRun, List.find?_append, hfind, List.findSome?_append, hfirst,
              lastState_append]

end Runs

/-- SPARQL's truth tables of logical-or (`decisive` true) and logical-and (`decisive` false) on
effective boolean values, an error standing for the error value: the deciding value when either
operand has it, else the left operand's error, else the right one's, else the other value. -/
def logicalTable (decisive : Bool) : Outcome Bool → Outcome Bool → Outcome Bool
  | .ok a, w => if a = decisive then .ok decisive else w
  | .error e, .ok b => if b = decisive then .ok decisive else .error e
  | .error e, .error _ => .error e

namespace Evaluator

variable {ev : Evaluator} {row : Solution}

/-- Every node is evaluated between two cancellation checks. -/
theorem eval_eq_guarded (e : Expression) : ∃ m, ev.eval row e = guarded m := by
  rcases e with t | name | ⟨op | ⟨iri, _ | op⟩, args⟩ | ⟨negated, pattern⟩ | ⟨head, body⟩
  all_goals exact ⟨_, by rw [eval.eq_def]⟩

theorem exec_eval_of_cancelled (e : Expression) {s : EvalState} (h : s.cancelled = true) :
    exec (ev.eval row e) s = (.error .cancelled, s) := by
  obtain ⟨m, hm⟩ : ∃ m, ev.eval row e = guarded m := eval_eq_guarded e
  rw [hm, exec_guarded_of_cancelled m h]

/-- An evaluation that gives a value leaves the evaluation not cancelled. -/
theorem cancelled_of_exec_eval {e : Expression} {s s' : EvalState} {t : Term}
    (h : exec (ev.eval row e) s = (.ok t, s')) : s'.cancelled = false := by
  obtain ⟨m, hm⟩ : ∃ m, ev.eval row e = guarded m := eval_eq_guarded e
  rw [hm] at h
  exact cancelled_of_exec_guarded h

theorem or_some_eq (deferred : Option EvalError) (e : EvalError) :
    deferred.or (some e) = some (deferred.getD e) := by
  cases deferred <;> rfl

/-- The connective over the remaining operands runs as `connectiveRun` says of their runs. -/
theorem exec_connective (decisive : Bool) :
    ∀ (deferred : Option EvalError) (args : List Expression) (s : EvalState),
      exec (ev.connective row decisive deferred args) s =
        connectiveRun decisive deferred (ev.operandRuns row args s) s
  | some e, [], s => by
      rw [connective.eq_1, exec_throw, operandRuns, connectiveRun_nil]
  | none, [], s => by
      rw [connective.eq_2, exec_pure, operandRuns, connectiveRun_nil]
  | deferred, a :: rest, s => by
      rw [connective.eq_3, exec_bind, exec_attempt, operandRuns, connectiveRun_cons]
      simp only
      -- the operand's effective boolean value decides, or the rest runs from its state
      cases hv : (exec (ev.eval row a) s).1 >>= Term.ebv with
      | ok b =>
          by_cases hb : b = decisive
          · simp [Decides, hb]
          · simp only [Decides, hb, beq_iff_eq, if_false, Outcome.error?, Option.or_none]
            exact exec_connective decisive deferred rest _
      | error e =>
          by_cases he : e.isQueryError
          · simp only [Decides, he, Bool.not_true, Bool.false_eq_true, if_true, if_false,
              Outcome.error?, or_some_eq]
            exact exec_connective decisive _ rest _
          · simp [Decides, he]

/-- The call of a connective checks that it has two operands or more, then runs over them. -/
theorem eval_connective (decisive : Bool) (args : List Expression) :
    ev.eval row (Expression.connective decisive args) = guarded (do
      ofOutcome (checkArity (SpecialForm.connective decisive).name (.atLeast 2) args.length)
      ev.connective row decisive none args) := by
  cases decisive
  · rw [Expression.connective, SpecialForm.connective, eval.eq_4]
    rfl
  · rw [Expression.connective, SpecialForm.connective, eval.eq_5]
    rfl

/-- A run whose value is a boolean left the evaluation not cancelled. -/
theorem cancelled_of_mem_operandRuns :
    ∀ {args : List Expression} {s : EvalState}, ∀ r ∈ ev.operandRuns row args s,
      ∀ b, r.1 = .ok b → r.2.cancelled = false
  | [], _, r, hr => absurd hr List.not_mem_nil
  | a :: rest, s, r, hr => by
      rw [operandRuns, List.mem_cons] at hr
      rcases hr with rfl | hr
      · intro b hb
        obtain ⟨t, ht, -⟩ := Outcome.bind_eq_ok_iff.mp hb
        exact cancelled_of_exec_eval (Prod.ext ht rfl)
      · exact cancelled_of_mem_operandRuns r hr

/-- A connective that gives a boolean leaves the evaluation not cancelled, when every run with
a boolean value does and it started so. -/
theorem cancelled_of_connectiveRun {decisive : Bool} {runs : List (Outcome Bool × EvalState)}
    {s s' : EvalState} {t : Term} (hruns : ∀ r ∈ runs, ∀ b, r.1 = .ok b → r.2.cancelled = false)
    (hs : s.cancelled = false) (h : connectiveRun decisive none runs s = (.ok t, s')) :
    s'.cancelled = false := by
  unfold connectiveRun at h
  split at h
  · rename_i r hfind
    obtain ⟨hmap, rfl⟩ := Prod.mk.inj h
    cases hr : r.1 with
    | ok b => exact hruns r (List.mem_of_find?_eq_some hfind) b hr
    | error e => simp [hr] at hmap
  · obtain ⟨hvalue, rfl⟩ := Prod.mk.inj h
    -- no run failed, so the last run, if any, gave a boolean
    have hnone : (runs.findSome? fun r => Outcome.error? r.1) = none := by
      cases hfound : runs.findSome? fun r => Outcome.error? r.1 with
      | none => rfl
      | some e => simp [hfound] at hvalue
    rw [List.findSome?_eq_none_iff] at hnone
    cases hlast : runs.getLast? with
    | none => simpa [lastState, hlast] using hs
    | some r =>
        have hmem : r ∈ runs := List.mem_of_getLast? hlast
        have hok : ∃ b, r.1 = .ok b := by
          cases hr : r.1 with
          | ok b => exact ⟨b, rfl⟩
          | error e => simpa [Outcome.error?, hr] using hnone r hmem
        obtain ⟨b, hb⟩ := hok
        simpa [lastState, hlast] using hruns r hmem b hb

/-- A connective of two operands or more evaluates its operands from the left, each from the
state the one before it left, and stops at the first that decides: it gives what
`connectiveRun` reads off the operand runs, outcome and final state. -/
theorem exec_eval_connective (decisive : Bool) {args : List Expression} (hargs : 2 ≤ args.length)
    (s : EvalState) :
    exec (ev.eval row (Expression.connective decisive args)) s =
      connectiveRun decisive none (ev.operandRuns row args s) s := by
  cases hs : s.cancelled
  · have hcheck : exec (ofOutcome (checkArity (SpecialForm.connective decisive).name
        (.atLeast 2) args.length)) s = (.ok (), s) := by
      simp [checkArity, Arity.accepts, hargs]
    have hbody : exec (do
          ofOutcome (checkArity (SpecialForm.connective decisive).name (.atLeast 2) args.length)
          ev.connective row decisive none args) s =
        connectiveRun decisive none (ev.operandRuns row args s) s := by
      rw [exec_bind_of_ok hcheck, exec_connective]
    rw [eval_connective, exec_guarded_of_not_cancelled _ hs fun t s' h => ?_, hbody]
    exact cancelled_of_connectiveRun cancelled_of_mem_operandRuns hs (hbody ▸ h)
  · -- after cancellation the first operand fails with `cancelled`, which decides
    obtain ⟨a, rest, rfl⟩ : ∃ a rest, args = a :: rest := by
      cases args with
      | nil => simp at hargs
      | cons a rest => exact ⟨a, rest, rfl⟩
    rw [exec_eval_of_cancelled _ hs, operandRuns, connectiveRun_cons, exec_eval_of_cancelled a hs]
    simp [Decides, EvalError.isQueryError, EvalError.kind]

theorem operandRuns_append (xs ys : List Expression) (s : EvalState) :
    ev.operandRuns row (xs ++ ys) s =
      ev.operandRuns row xs s ++ ev.operandRuns row ys (lastState (ev.operandRuns row xs s) s) := by
  induction xs generalizing s with
  | nil => rfl
  | cons a xs ih => rw [List.cons_append, operandRuns, operandRuns, ih, List.cons_append, lastState_cons]

/-- A connective of three operands or more has the outcome and the final state of the same
connective of two operands, the first of them the connective of all but the last. -/
theorem exec_eval_connective_nested (decisive : Bool) {init : List Expression}
    (hinit : 2 ≤ init.length) (last : Expression) (s : EvalState) :
    exec (ev.eval row (Expression.connective decisive (init ++ [last]))) s =
      exec (ev.eval row (Expression.connective decisive
        [Expression.connective decisive init, last])) s := by
  have hflat : 2 ≤ (init ++ [last]).length := by simp; omega
  rw [exec_eval_connective decisive hflat, exec_eval_connective decisive (by simp),
    operandRuns_append]
  conv => rhs; rw [operandRuns, exec_eval_connective decisive hinit]
  exact (connectiveRun_nested _ (fun s' => ev.operandRuns row [last] s')).symm

/-- On two operands whose errors are query errors, `||` and `&&` follow SPARQL's truth tables:
the deciding value if either operand has it (the second is evaluated only when the first does
not), else the first error, else the other value. -/
theorem exec_eval_connective_pair (decisive : Bool) (a b : Expression) (s : EvalState)
    (hfirst : ∀ e, (exec (ev.eval row a) s).1 >>= Term.ebv = .error e → e.isQueryError)
    (hsecond : ∀ e, (exec (ev.eval row b) (exec (ev.eval row a) s).2).1 >>= Term.ebv = .error e →
      e.isQueryError) :
    (exec (ev.eval row (Expression.connective decisive [a, b])) s).1 =
      (logicalTable decisive ((exec (ev.eval row a) s).1 >>= Term.ebv)
        ((exec (ev.eval row b) (exec (ev.eval row a) s).2).1 >>= Term.ebv)).map Term.boolean := by
  rw [exec_eval_connective decisive (by simp), operandRuns, operandRuns, operandRuns,
    connectiveRun_cons, connectiveRun_cons, connectiveRun_nil]
  generalize (exec (ev.eval row b) (exec (ev.eval row a) s).2).1 >>= Term.ebv = w at hsecond ⊢
  generalize (exec (ev.eval row a) s).1 >>= Term.ebv = v at hfirst ⊢
  -- a query error never decides, so the case split is over the two values only
  rcases v with e | x <;> rcases w with e' | y
  · simp [Decides, hfirst e rfl, hsecond e' rfl, logicalTable, Outcome.error?]
  · cases decisive <;> cases y <;> simp [Decides, hfirst e rfl, logicalTable, Outcome.error?]
  · cases decisive <;> cases x <;> simp [Decides, hsecond e' rfl, logicalTable, Outcome.error?]
  · cases decisive <;> cases x <;> cases y <;> simp [Decides, logicalTable, Outcome.error?]

end Evaluator

/-- `||` (`decisive` true) and `&&` (`decisive` false) over two operands or more evaluate the
operands from the left, each from the state the one before it left, and stop at the first that
decides: it has the deciding value, which is the result, or fails with an error that is not a
query error, which is the result unchanged; when none decides the result is the first query
error, or else the other boolean. Over three operands or more the connective runs, outcome and
final state, as the connective of two operands whose first is the connective of all but the
last; over two operands whose errors are query errors it follows SPARQL's truth tables. -/
theorem connective_semantics (decisive : Bool) :
    (∀ (ev : Evaluator) (row : Solution) (args : List Expression) (s : EvalState),
      2 ≤ args.length →
      exec (ev.eval row (Expression.connective decisive args)) s =
        connectiveRun decisive none (ev.operandRuns row args s) s) ∧
    (∀ (ev : Evaluator) (row : Solution) (init : List Expression) (last : Expression)
      (s : EvalState), 2 ≤ init.length →
      exec (ev.eval row (Expression.connective decisive (init ++ [last]))) s =
        exec (ev.eval row (Expression.connective decisive
          [Expression.connective decisive init, last])) s) ∧
    (∀ (ev : Evaluator) (row : Solution) (a b : Expression) (s : EvalState),
      (∀ e, (exec (ev.eval row a) s).1 >>= Term.ebv = .error e → e.isQueryError) →
      (∀ e, (exec (ev.eval row b) (exec (ev.eval row a) s).2).1 >>= Term.ebv = .error e →
        e.isQueryError) →
      (exec (ev.eval row (Expression.connective decisive [a, b])) s).1 =
        (logicalTable decisive ((exec (ev.eval row a) s).1 >>= Term.ebv)
          ((exec (ev.eval row b) (exec (ev.eval row a) s).2).1 >>= Term.ebv)).map Term.boolean) :=
  ⟨fun _ _ _ s hargs => Evaluator.exec_eval_connective decisive hargs s,
   fun _ _ _ last s hinit => Evaluator.exec_eval_connective_nested decisive hinit last s,
   fun _ _ a b s hfirst hsecond => Evaluator.exec_eval_connective_pair decisive a b s hfirst hsecond⟩

/-- With `x` unbound, `?x || true` is true: the unbound variable is a query error, which the
second operand's true overrides. -/
theorem unbound_or_true :
    2 ≤ [Expression.var "x", .term (Term.boolean true)].length ∧
    exec (({ now := default } : Evaluator).eval Solution.empty
        (Expression.connective true [.var "x", .term (Term.boolean true)])) {} =
      (.ok (Term.boolean true), {}) := by
  refine ⟨by decide, ?_⟩
  rw [(connective_semantics true).1 _ _ _ _ (by decide)]
  simp [Evaluator.operandRuns, connectiveRun_cons, Evaluator.eval.eq_1, Evaluator.eval.eq_2,
    exec_guarded_pure, exec_guarded_throw, Solution.lookup?, Solution.empty, Decides,
    ebv_boolean, EvalError.isQueryError, EvalError.kind]

end SparqlExpr
