import SparqlExpr.Proofs.DispatchFaults

/-!
The arity checks made at construction are passed again at evaluation.

An operator node is built only when the operator's arity accepts the number of arguments
(`Expression.applyChecked`, and `Expression.namedCall` for a function the registry knows), and an
aggregate only over such a body; `Expression.Built` is what the constructors build from terms,
variables and existence tests, and `Expression.ArityChecked` is the invariant they establish at
every node (`Expression.Built.arityChecked`).

Evaluation checks again: `&&` and `||` check their arity, the other special forms dispatch on the
shape of their argument list and fall through to an arity error, and a fixed or overloaded
operator checks inside `apply`, on the values of its arguments. `EvalM.FaultFree m` says that no
run of `m` fails with a dispatch fault (`EvalError.IsDispatchFault`); it is carried through binds,
`attempt` and the cancellation guards, and every loop keeps it because a loop defers only the
errors of its elements and type mismatches. On an arity-checked node the arity fixes the shape
of a special form's arguments, so the fall-through is never reached, and the values given to
`apply` are as many as the argument expressions; `Evaluator.faultFree_eval` carries this over the
whole tree by induction on the invariant.

The main statement, `construction_checks_suffice`: evaluation, the effective boolean value, a
filter and an aggregate of a built expression raise no dispatch fault, when its operators are
built-in (or raise none themselves) and neither the extension functions nor the existence test
raise one.
-/

namespace SparqlExpr

open EvalM

namespace EvalM

variable {α β : Type}

/-- No run of a step, from any state, fails with a dispatch fault. -/
def FaultFree (m : EvalM α) : Prop :=
  ∀ s e s', exec m s = (.error e, s') → ¬e.IsDispatchFault

namespace FaultFree

variable {m : EvalM α}

theorem pure (a : α) : FaultFree (Pure.pure a : EvalM α) := by
  intro s e s' h
  cases h

theorem throw {e : EvalError} (he : ¬e.IsDispatchFault) :
    FaultFree (MonadExcept.throw e : EvalM α) := by
  intro s e' s' h
  cases h
  exact he

theorem ofOutcome {o : Outcome α} (h : Outcome.FaultFree o) : FaultFree (EvalM.ofOutcome o) := by
  intro s e s' hrun
  rw [exec_ofOutcome] at hrun
  exact h e (Prod.mk.inj hrun).1

/-- A bind raises no dispatch fault when its first step raises none and the rest raises none
after each value the first step yields. -/
theorem bind {Q : α → Prop} {f : α → EvalM β} (hm : FaultFree m) (hy : Yields Q m)
    (hf : ∀ a, Q a → FaultFree (f a)) : FaultFree (m >>= f) := by
  intro s e s' hrun
  rw [exec_bind] at hrun
  rcases hexec : exec m s with ⟨_ | a, s₁⟩
  · rw [hexec] at hrun
    cases hrun
    exact hm s _ _ hexec
  · rw [hexec] at hrun
    exact hf a (hy s a s₁ hexec) s₁ e s' hrun

/-- `attempt` never fails. -/
theorem attempt (m : EvalM α) : FaultFree (EvalM.attempt m) := by
  intro s e s' h
  cases h

theorem fresh : FaultFree EvalM.fresh := by
  intro s e s' h
  cases h

theorem cancel : FaultFree EvalM.cancel := by
  intro s e s' h
  cases h

theorem ofReply {r : Reply α} (h : Outcome.FaultFree r.result) : FaultFree (EvalM.ofReply r) := by
  intro s e s' hrun
  rw [exec_ofReply] at hrun
  exact h e (Prod.mk.inj hrun).1

theorem checkCancelled : FaultFree EvalM.checkCancelled := by
  intro s e s' h
  rw [exec_checkCancelled] at h
  cases hc : s.cancelled <;> simp only [hc, Bool.false_eq_true, if_false, if_true,
    Prod.mk.injEq, reduceCtorEq, false_and, Except.error.injEq] at h
  rw [← h.1]
  exact EvalError.isDispatchFault_cancelled

theorem guarded {m : EvalM Term} (hm : FaultFree m) : FaultFree (EvalM.guarded m) := by
  unfold EvalM.guarded
  exact checkCancelled.bind Yields.trivial fun _ _ => hm.bind Yields.trivial fun t _ =>
    checkCancelled.bind Yields.trivial fun _ _ => pure t

/-- The outcome that `attempt` returns is fault-free when the step is. -/
theorem yields_attempt (hm : FaultFree m) : Yields Outcome.FaultFree (EvalM.attempt m) := by
  intro s o s' hrun e he
  simp only [exec_attempt, Prod.mk.injEq, Except.ok.injEq] at hrun
  obtain ⟨rfl, rfl⟩ := hrun
  exact hm s e _ (Prod.ext he rfl)

end FaultFree

end EvalM

/-- The arities are accepted again: at every node that calls an operator, the operator's arity
accepts the number of argument expressions. -/
inductive Expression.ArityChecked : Expression → Prop
  | term (t : Term) : ArityChecked (.term t)
  | var (name : String) : ArityChecked (.var name)
  | operator {op : Operator} {args : List Expression} : op.arity.accepts args.length = true →
      (∀ a ∈ args, ArityChecked a) → ArityChecked (.call (.operator op) args)
  | registered {iri : String} {op : Operator} {args : List Expression} :
      op.arity.accepts args.length = true → (∀ a ∈ args, ArityChecked a) →
      ArityChecked (.call (.function iri (some op)) args)
  | extension {iri : String} {args : List Expression} : (∀ a ∈ args, ArityChecked a) →
      ArityChecked (.call (.function iri none) args)
  | existence (negated : Bool) (pattern : String) : ArityChecked (.existence negated pattern)
  | aggregate (head : Aggregation) {body : Expression} : ArityChecked body →
      ArityChecked (.aggregate head body)

/-- The expressions the constructors build: terms, variables, existence tests, and the operator
applications, named calls and aggregates whose construction succeeds on built expressions. -/
inductive Expression.Built : Expression → Prop
  | term (t : Term) : Built (.term t)
  | var (name : String) : Built (.var name)
  | existence (negated : Bool) (pattern : String) : Built (.existence negated pattern)
  | applyChecked {op : Operator} {args : List Expression} {e : Expression} :
      Expression.applyChecked op args = .ok e → (∀ a ∈ args, Built a) → Built e
  | operator {r : Registry} {name : String} {args : List Expression} {e : Expression} :
      Expression.operator r name args = .ok e → (∀ a ∈ args, Built a) → Built e
  | namedCall {r : Registry} {iri : String} {args : List Expression} {e : Expression} :
      Expression.namedCall r iri args = .ok e → (∀ a ∈ args, Built a) → Built e
  | aggregateOf {head : Aggregation} {body e : Expression} :
      Expression.aggregateOf head body = .ok e → Built body → Built e

namespace Expression

variable {args : List Expression} {e : Expression}

theorem arityChecked_of_applyChecked {op : Operator} (h : applyChecked op args = .ok e)
    (hargs : ∀ a ∈ args, a.ArityChecked) : e.ArityChecked := by
  unfold applyChecked Operator.checkArity checkArity at h
  split at h
  · cases h
    exact .operator ‹_› hargs
  · cases h

theorem arityChecked_of_namedCall {r : Registry} {iri : String} (h : namedCall r iri args = .ok e)
    (hargs : ∀ a ∈ args, a.ArityChecked) : e.ArityChecked := by
  unfold namedCall at h
  rcases hf : r.function? iri with _ | op <;> simp only [hf] at h
  · cases h
    exact .extension hargs
  · unfold Operator.checkArity checkArity at h
    split at h
    · cases h
      exact .registered ‹_› hargs
    · cases h

theorem arityChecked_of_aggregateOf {head : Aggregation} {body : Expression}
    (h : aggregateOf head body = .ok e) (hbody : body.ArityChecked) : e.ArityChecked := by
  unfold aggregateOf at h
  by_cases hseparator : (head.separator.isSome && head.aggregator != .groupConcat) = true
  · simp [hseparator] at h
  · by_cases hnested : body.containsAggregate = true
    · simp [hseparator, hnested] at h
    · simp only [hseparator, hnested] at h
      cases h
      exact .aggregate head hbody

/-- An operator applies to every argument list its arity accepts. -/
theorem applyChecked_eq_ok {op : Operator} (h : op.arity.accepts args.length = true) :
    applyChecked op args = .ok (call (.operator op) args) := by
  simp [applyChecked, Operator.checkArity, checkArity, h]

theorem Built.call {op : Operator} (h : op.arity.accepts args.length = true)
    (hargs : ∀ a ∈ args, a.Built) : (call (.operator op) args).Built :=
  .applyChecked (applyChecked_eq_ok h) hargs

/-- What the constructors build passes its arity checks again. -/
theorem Built.arityChecked (h : e.Built) : e.ArityChecked := by
  induction h with
  | term t => exact .term t
  | var name => exact .var name
  | existence negated pattern => exact .existence negated pattern
  | applyChecked h _ ih => exact arityChecked_of_applyChecked h ih
  | operator h _ ih =>
      unfold Expression.operator at h
      obtain ⟨op, -, h⟩ := Outcome.bind_eq_ok_iff.mp h
      exact arityChecked_of_applyChecked h ih
  | namedCall h _ ih => exact arityChecked_of_namedCall h ih
  | aggregateOf h _ ih => exact arityChecked_of_aggregateOf h ih

end Expression

namespace Evaluator

/-- Neither an extension function nor the existence test fails with a dispatch fault. -/
def CollaboratorsFaultFree (ev : Evaluator) : Prop :=
  (∀ entry ∈ ev.extensions, ∀ values, Outcome.FaultFree (entry.2 values).result) ∧
    ∀ test, ev.existence = some test → ∀ pattern row,
      Outcome.FaultFree (test pattern row).result

variable {ev : Evaluator} {row : Solution} {args : List Expression}

/-- The error a loop defers is one it met. -/
theorem not_isDispatchFault_getD {deferred : Option EvalError} {e : EvalError}
    (hdeferred : ∀ d ∈ deferred, ¬d.IsDispatchFault) (he : ¬e.IsDispatchFault) :
    ∀ d ∈ some (deferred.getD e), ¬d.IsDispatchFault := by
  cases deferred <;> simp_all

section Loops

variable (hsub : ∀ a ∈ args, FaultFree (ev.eval row a))
include hsub

theorem faultFree_evalArgs : FaultFree (ev.evalArgs row args) := by
  induction args with
  | nil =>
      rw [evalArgs.eq_1]
      exact FaultFree.pure _
  | cons a rest ih =>
      rw [evalArgs.eq_2]
      exact (hsub a List.mem_cons_self).bind Yields.trivial fun _ _ =>
        (ih fun b hb => hsub b (List.mem_cons_of_mem a hb)).bind Yields.trivial fun _ _ =>
          FaultFree.pure _

/-- `&&` and `||` defer only the errors of their operands. -/
theorem faultFree_connective (decisive : Bool) :
    ∀ deferred : Option EvalError, (∀ d ∈ deferred, ¬d.IsDispatchFault) →
      FaultFree (ev.connective row decisive deferred args) := by
  induction args with
  | nil =>
      rintro (_ | e) hdeferred
      · rw [connective.eq_2]
        exact FaultFree.pure _
      · rw [connective.eq_1]
        exact FaultFree.throw (hdeferred e rfl)
  | cons a rest ih =>
      intro deferred hdeferred
      have hrest := ih fun b hb => hsub b (List.mem_cons_of_mem a hb)
      rw [connective.eq_3]
      refine (FaultFree.attempt _).bind (FaultFree.yields_attempt (hsub a List.mem_cons_self))
        fun o ho => ?_
      have hvalue : Outcome.FaultFree (o >>= Term.ebv) := by simp [ho]
      split
      · split
        · exact FaultFree.pure _
        · exact hrest deferred hdeferred
      · rename_i e he
        split
        · exact hrest _ (not_isDispatchFault_getD hdeferred (hvalue e he))
        · exact FaultFree.throw (hvalue e he)

/-- `in` and `notin` defer only the errors of their candidates and type mismatches. -/
theorem faultFree_membership (name : String) (negated : Bool) (needle : Term) :
    ∀ deferred : Option EvalError, (∀ d ∈ deferred, ¬d.IsDispatchFault) →
      FaultFree (ev.membership row name negated needle deferred args) := by
  induction args with
  | nil =>
      rintro (_ | e) hdeferred
      · rw [membership.eq_2]
        exact FaultFree.pure _
      · rw [membership.eq_1]
        exact FaultFree.throw (hdeferred e rfl)
  | cons c rest ih =>
      intro deferred hdeferred
      have hrest := ih fun b hb => hsub b (List.mem_cons_of_mem c hb)
      rw [membership.eq_3]
      refine (FaultFree.attempt _).bind (FaultFree.yields_attempt (hsub c List.mem_cons_self))
        fun o ho => ?_
      split
      · split
        · exact FaultFree.pure _
        · exact hrest deferred hdeferred
        · exact hrest _ (not_isDispatchFault_getD hdeferred (by simp))
      · rename_i e
        split
        · exact hrest _ (not_isDispatchFault_getD hdeferred (ho e rfl))
        · exact FaultFree.throw (ho e rfl)

/-- `coalesce` fails with the last query error of its arguments, or with an invalid argument
when it has none. -/
theorem faultFree_coalesce :
    ∀ last : Option EvalError, (∀ d ∈ last, ¬d.IsDispatchFault) →
      FaultFree (ev.coalesce row last args) := by
  induction args with
  | nil =>
      intro last hlast
      rw [coalesce.eq_1]
      exact FaultFree.throw (by cases last <;> simp_all)
  | cons a rest ih =>
      intro last _
      have hrest := ih fun b hb => hsub b (List.mem_cons_of_mem a hb)
      rw [coalesce.eq_2]
      refine (FaultFree.attempt _).bind (FaultFree.yields_attempt (hsub a List.mem_cons_self))
        fun o ho => ?_
      split
      · exact FaultFree.pure _
      · rename_i e
        split
        · exact hrest _ (by simpa using ho e rfl)
        · exact FaultFree.throw (ho e rfl)

end Loops

theorem yields_length_evalArgs (args : List Expression) :
    Yields (fun values => values.length = args.length) (ev.evalArgs row args) := by
  induction args with
  | nil =>
      rw [evalArgs.eq_1]
      exact Yields.pure rfl
  | cons a rest ih =>
      rw [evalArgs.eq_2]
      exact Yields.bind Yields.trivial fun _ _ => Yields.bind ih fun _ hlen =>
        Yields.pure (by simp [hlen])

section Nodes

variable (hsub : ∀ a ∈ args, FaultFree (ev.eval row a))
include hsub

/-- A fixed or overloaded operator is applied to as many values as it has argument
expressions. -/
theorem faultFree_eval_strict {op : Operator} (hop : op.FaultFree) (hclass : op.opClass ≠ .special)
    (harity : op.arity.accepts args.length = true) :
    FaultFree (ev.eval row (.call (.operator op) args)) := by
  rw [eval_strict hclass]
  refine FaultFree.guarded ((faultFree_evalArgs hsub).bind (yields_length_evalArgs args)
    fun values hlen => FaultFree.fresh.bind Yields.trivial fun _ _ => FaultFree.ofOutcome ?_)
  exact hop.applyEvaluated hclass (hlen ▸ harity)

/-- A special form given as many argument expressions as its arity accepts never reaches its
own arity error: the arity fixes the shape of the arguments, one case per form. -/
theorem faultFree_eval_special (form : SpecialForm)
    (harity : form.arity.accepts args.length = true) :
    FaultFree (ev.eval row (.call (.operator (.special form)) args)) := by
  cases form with
  | conjunction =>
      rw [eval.eq_4]
      exact FaultFree.guarded ((FaultFree.ofOutcome (by simp [checkArity, harity])).bind
        Yields.trivial fun _ _ => faultFree_connective hsub false none (by simp))
  | disjunction =>
      rw [eval.eq_5]
      exact FaultFree.guarded ((FaultFree.ofOutcome (by simp [checkArity, harity])).bind
        Yields.trivial fun _ _ => faultFree_connective hsub true none (by simp))
  | conditional =>
      obtain ⟨c, t, f, rfl⟩ : ∃ c t f, args = [c, t, f] :=
        List.length_eq_three.mp (by simpa [SpecialForm.arity, Arity.accepts] using harity)
      rw [eval_conditional]
      refine FaultFree.guarded ((hsub c (by simp)).bind Yields.trivial fun v _ =>
        (FaultFree.ofOutcome (faultFree_ebv v)).bind Yields.trivial fun b _ => ?_)
      split
      · exact hsub t (by simp)
      · exact hsub f (by simp)
  | coalesce =>
      rw [eval_coalesce]
      exact FaultFree.guarded (faultFree_coalesce hsub none (by simp))
  | bound =>
      obtain ⟨a, rfl⟩ : ∃ a, args = [a] :=
        List.length_eq_one_iff.mp (by simpa [SpecialForm.arity, Arity.accepts] using harity)
      by_cases hvar : ∃ name, a = .var name
      · obtain ⟨name, rfl⟩ := hvar
        rw [eval.eq_8]
        exact FaultFree.guarded (FaultFree.pure _)
      · rw [eval.eq_9 ev row a fun name h => hvar ⟨name, h⟩]
        exact FaultFree.guarded (FaultFree.throw (EvalError.not_isDispatchFault_bound _))
  | membership negated =>
      obtain ⟨needle, candidates, rfl⟩ : ∃ needle candidates, args = needle :: candidates :=
        List.exists_cons_of_length_pos (by simp [SpecialForm.arity, Arity.accepts] at harity; omega)
      rw [eval_membership]
      exact FaultFree.guarded ((hsub needle (by simp)).bind Yields.trivial fun v _ =>
        faultFree_membership (fun c hc => hsub c (by simp [hc])) _ _ v none (by simp))
  | now =>
      obtain rfl : args = [] :=
        List.length_eq_zero_iff.mp (by simpa [SpecialForm.arity, Arity.accepts] using harity)
      rw [eval.eq_11]
      exact FaultFree.guarded (FaultFree.pure _)

theorem faultFree_eval_operator {op : Operator} (hop : op.FaultFree)
    (harity : op.arity.accepts args.length = true) :
    FaultFree (ev.eval row (.call (.operator op) args)) := by
  cases op with
  | special form => exact faultFree_eval_special hsub form harity
  | fixed f => exact faultFree_eval_strict hsub hop (by simp [Operator.opClass]) harity
  | overloaded o => exact faultFree_eval_strict hsub hop (by simp [Operator.opClass]) harity

theorem faultFree_eval_extension (hev : ev.CollaboratorsFaultFree) (iri : String) :
    FaultFree (ev.eval row (.call (.function iri none) args)) := by
  rw [eval_extension]
  refine FaultFree.guarded ?_
  split
  · rename_i f hf
    refine (faultFree_evalArgs hsub).bind Yields.trivial fun values _ => ?_
    exact FaultFree.ofReply (hev.1 (iri, f) (mem_of_assocFind? hf) values)
  · exact FaultFree.throw (by simp)

end Nodes

theorem faultFree_eval_existence (hev : ev.CollaboratorsFaultFree) (negated : Bool)
    (pattern : String) : FaultFree (ev.eval row (.existence negated pattern)) := by
  rw [eval_existence]
  refine FaultFree.guarded ?_
  split
  · rename_i test htest
    exact (FaultFree.ofReply (hev.2 test htest pattern row)).bind Yields.trivial fun _ _ =>
      FaultFree.pure _
  · exact FaultFree.throw (by simp)

/-- The operators of a call's arguments are operators of the call. -/
theorem faultFree_args {callee : Callee}
    (hops : ∀ op ∈ (Expression.call callee args).operators, op.FaultFree)
    (ih : ∀ a ∈ args, (∀ op ∈ a.operators, op.FaultFree) → FaultFree (ev.eval row a)) :
    ∀ a ∈ args, FaultFree (ev.eval row a) := fun a ha =>
  ih a ha fun op hop => hops op (Expression.operators_subset_of_mem ha op hop)

/-- Evaluation raises no dispatch fault, by induction over the arity checks: each node raises
none once its argument expressions raise none. -/
theorem faultFree_eval (hev : ev.CollaboratorsFaultFree) {e : Expression} (he : e.ArityChecked)
    (hops : ∀ op ∈ e.operators, op.FaultFree) : FaultFree (ev.eval row e) := by
  induction he with
  | term t =>
      rw [eval.eq_1]
      exact FaultFree.guarded (FaultFree.pure t)
  | var name =>
      rw [eval.eq_2]
      refine FaultFree.guarded ?_
      split
      · exact FaultFree.pure _
      · exact FaultFree.throw (by simp)
  | @operator op args harity _ ih =>
      exact faultFree_eval_operator (faultFree_args hops ih)
        (hops op (by simp [Expression.operators])) harity
  | @registered iri op args harity _ ih =>
      rw [eval_function_some]
      exact faultFree_eval_operator (faultFree_args hops ih)
        (hops op (by simp [Expression.operators])) harity
  | extension _ ih => exact faultFree_eval_extension (faultFree_args hops ih) hev _
  | existence negated pattern => exact faultFree_eval_existence hev negated pattern
  | aggregate head _ _ =>
      rw [eval.eq_25]
      exact FaultFree.guarded (FaultFree.throw (EvalError.not_isDispatchFault_aggregate _))

theorem faultFree_evaluateEbv {e : Expression} (he : FaultFree (ev.eval row e)) :
    FaultFree (ev.evaluateEbv row e) := by
  unfold evaluateEbv
  exact he.bind Yields.trivial fun t _ => FaultFree.ofOutcome (faultFree_ebv t)

/-- A filter passes on the errors of the effective boolean value, or turns them into false. -/
theorem faultFree_filter {e : Expression} (he : FaultFree (ev.eval row e)) :
    FaultFree (ev.filter row e) := by
  unfold filter
  refine (FaultFree.attempt _).bind (FaultFree.yields_attempt (faultFree_evaluateEbv he))
    fun o ho => ?_
  split
  · exact FaultFree.pure _
  · rename_i err
    split
    · exact FaultFree.pure _
    · exact FaultFree.throw (ho err rfl)

variable {body : Expression}

theorem faultFree_groupValues (hbody : ∀ r, FaultFree (ev.eval r body)) :
    ∀ rows, FaultFree (ev.groupValues body rows)
  | [] => by
      rw [groupValues.eq_1]
      exact FaultFree.pure _
  | r :: rows => by
      rw [groupValues.eq_2]
      refine (FaultFree.attempt _).bind (FaultFree.yields_attempt (hbody r)) fun o ho => ?_
      split
      · exact (faultFree_groupValues hbody rows).bind Yields.trivial fun _ _ => FaultFree.pure _
      · rename_i e
        split
        · exact faultFree_groupValues hbody rows
        · exact FaultFree.throw (ho e rfl)

theorem faultFree_aggregate (hbody : ∀ r, FaultFree (ev.eval r body)) (head : Aggregation)
    (rows : List Solution) : FaultFree (ev.aggregate head body rows) := by
  unfold aggregate
  exact (faultFree_groupValues hbody rows).bind Yields.trivial fun values _ =>
    FaultFree.ofOutcome (Aggregator.faultFree_fold _ _ _)

end Evaluator

/-- No evaluation of an expression built by the constructors fails with an arity error or with
the error of a special form applied to evaluated arguments, under any solution and from any
state: neither its value, nor its effective boolean value, nor a filter over it, nor the
aggregate it is, over any group. This holds when the operators it calls are built-in or raise
no such error themselves, and the extension functions and the existence test raise none. -/
theorem construction_checks_suffice (ev : Evaluator) (hev : ev.CollaboratorsFaultFree)
    (e : Expression) (hbuilt : e.Built)
    (hops : ∀ op ∈ e.operators, Registry.builtins.Provides op ∨ op.FaultFree) :
    (∀ row, EvalM.FaultFree (ev.evaluate row e) ∧ EvalM.FaultFree (ev.evaluateEbv row e) ∧
      EvalM.FaultFree (ev.filter row e)) ∧
    ∀ head body, e = .aggregate head body → ∀ rows,
      EvalM.FaultFree (ev.aggregate head body rows) := by
  have hfaultFree : ∀ op ∈ e.operators, op.FaultFree := fun op hop =>
    (hops op hop).elim faultFree_builtins.of_provides id
  have heval : ∀ row, FaultFree (ev.eval row e) := fun row =>
    Evaluator.faultFree_eval hev hbuilt.arityChecked hfaultFree
  refine ⟨fun row => ⟨heval row, Evaluator.faultFree_evaluateEbv (heval row),
    Evaluator.faultFree_filter (heval row)⟩, ?_⟩
  rintro head body rfl rows
  -- the body of a built aggregate passes its checks again and calls the aggregate's operators
  cases hbuilt.arityChecked with
  | aggregate _ hbody =>
      exact Evaluator.faultFree_aggregate (fun r => Evaluator.faultFree_eval hev hbody fun op hop =>
        hfaultFree op (by simpa [Expression.operators] using hop)) head rows

/-- `if(bound(?x), ?x, 0)`, built from special forms, raises no dispatch fault. -/
theorem conditional_on_bound_faultFree :
    let ev : Evaluator := { now := default }
    let e : Expression := .call (.operator (.special .conditional))
      [.call (.operator (.special .bound)) [.var "x"], .var "x", .term (Term.integer 0)]
    ∀ row, EvalM.FaultFree (ev.evaluate row e) ∧ EvalM.FaultFree (ev.filter row e) := by
  intro ev e row
  have hev : ev.CollaboratorsFaultFree := ⟨by simp [ev], by simp [ev]⟩
  have hbuilt : e.Built := by
    refine .call (by decide) ?_
    simp only [List.mem_cons, List.not_mem_nil, or_false, forall_eq_or_imp, forall_eq]
    exact ⟨.call (by decide) (by simpa using Expression.Built.var "x"), .var "x", .term _⟩
  have hops : ∀ op ∈ e.operators, Registry.builtins.Provides op ∨ op.FaultFree := by
    simp [e, Expression.operators, Expression.argsOperators, Operator.FaultFree]
  have h := (construction_checks_suffice ev hev e hbuilt hops).1 row
  exact ⟨h.1, h.2.2⟩

end SparqlExpr
