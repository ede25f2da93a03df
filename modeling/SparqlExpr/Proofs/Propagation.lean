import SparqlExpr.Proofs.ControlFlow
import Mathlib.Logic.Relation

/-!
Errors that are not query errors reach the caller.

Evaluating a node starts evaluations of other expressions: the arguments of a strict call in
turn, the operands of `&&` and `||` up to the first that decides, the condition of `if` and the
branch it picks, the arguments of `coalesce` up to the first with a value, the needle of `in` and
`notin` and then the candidates up to the first match. `Evaluator.SubEvaluation` relates a node
and the state it starts in to each evaluation it starts directly, with the state that evaluation
starts in; its reflexive and transitive closure relates an evaluation to every evaluation
performed while it runs. Besides these, a node may call a collaborator of the evaluator: the
extension function of an IRI or the existence test (`Evaluator.CollaboratorFails`).

The main statement, `nonQuery_errors_propagate`: when an evaluation performed while an
expression is evaluated, or a collaborator called meanwhile, fails with an error that is not a
query error, the evaluation of the expression, of its effective boolean value and of a filter
over it (under either error policy) fail with that same error; and an aggregate fails with it when
it happens on any solution the aggregate reaches. So `&&`, `||`, `coalesce`, `in`, `notin`, the
rows an aggregate skips and a filter that excludes solutions absorb query errors only.

The step lemma is `error_of_subEvaluation`, one case per kind of node, and the loops enter only
through `LoopShape.error_of_mem_loopRuns`.
-/

namespace SparqlExpr

open EvalM

namespace EvalM.LoopShape

variable {ι σ β : Type} {run : ι → EvalM Term} {goesOn : Outcome Term → Bool}
  {loop : σ → List ι → EvalM β}

/-- An error that is not a query error, in any evaluation a loop performs, is the loop's error. -/
theorem error_of_mem_loopRuns (hshape : LoopShape run goesOn loop) {e : EvalError}
    (he : e.isQueryError = false) :
    ∀ {xs : List ι} (acc : σ) {s : EvalState} {y : ι} {s₁ : EvalState},
      (y, s₁) ∈ loopRuns run goesOn xs s → (exec (run y) s₁).1 = .error e →
        (exec (loop acc xs) s).1 = .error e
  | [], _, _, _, _, hmem, _ => absurd hmem List.not_mem_nil
  | x :: rest, acc, s, y, s₁, hmem, hfail => by
      rcases mem_loopRuns_cons.mp hmem with ⟨rfl, rfl⟩ | ⟨hgo, hrest⟩
      · exact (hshape.fatal acc y rest s₁ e hfail he).2
      · -- the loop went on after `x`, so it ends as the loop over the rest does
        obtain ⟨acc', hends⟩ := hshape.next acc x rest s hgo
        exact hends.2 e (error_of_mem_loopRuns hshape he acc' hrest hfail)

end EvalM.LoopShape

namespace Evaluator

variable (ev : Evaluator) (row : Solution)

/-- The evaluations that evaluating a node, started in a state, starts directly, each with the
state it starts in. A node started after cancellation starts none. -/
inductive SubEvaluation : Expression × EvalState → Expression × EvalState → Prop
  /-- An argument of a fixed or overloaded operator, up to the first that fails. -/
  | argument {op : Operator} {args : List Expression} {s : EvalState} {a : Expression}
      {s₁ : EvalState} :
      s.cancelled = false → op.opClass ≠ .special →
      (a, s₁) ∈ loopRuns (ev.eval row) Except.isOk args s →
      SubEvaluation (.call (.operator op) args, s) (a, s₁)
  /-- An argument of an extension function, up to the first that fails. -/
  | extensionArgument {iri : String} {f : Extension} {args : List Expression} {s : EvalState}
      {a : Expression} {s₁ : EvalState} :
      s.cancelled = false → ev.extension? iri = some f →
      (a, s₁) ∈ loopRuns (ev.eval row) Except.isOk args s →
      SubEvaluation (.call (.function iri none) args, s) (a, s₁)
  /-- An operand of `&&` or `||` of two operands or more, up to the first that decides. -/
  | operand {decisive : Bool} {args : List Expression} {s : EvalState} {a : Expression}
      {s₁ : EvalState} :
      s.cancelled = false → 2 ≤ args.length →
      (a, s₁) ∈ loopRuns (ev.eval row) (operandGoesOn decisive) args s →
      SubEvaluation (Expression.connective decisive args, s) (a, s₁)
  /-- The condition of `if`. -/
  | condition {c t f : Expression} {s : EvalState} :
      s.cancelled = false →
      SubEvaluation (.call (.operator (.special .conditional)) [c, t, f], s) (c, s)
  /-- The branch of `if` that the condition's effective boolean value picks. -/
  | branch {c t f : Expression} {s s₁ : EvalState} {v : Term} {b : Bool} :
      s.cancelled = false → exec (ev.eval row c) s = (.ok v, s₁) → v.ebv = .ok b →
      SubEvaluation (.call (.operator (.special .conditional)) [c, t, f], s)
        (if b then t else f, s₁)
  /-- An argument of `coalesce`, up to the first with a value. -/
  | coalesced {args : List Expression} {s : EvalState} {a : Expression} {s₁ : EvalState} :
      s.cancelled = false → (a, s₁) ∈ loopRuns (ev.eval row) coalesceGoesOn args s →
      SubEvaluation (.call (.operator (.special .coalesce)) args, s) (a, s₁)
  /-- The needle of `in` or `notin`. -/
  | needle {negated : Bool} {needle : Expression} {candidates : List Expression}
      {s : EvalState} :
      s.cancelled = false →
      SubEvaluation (.call (.operator (.special (.membership negated))) (needle :: candidates), s)
        (needle, s)
  /-- A candidate of `in` or `notin`, up to the first equal to the needle's value. -/
  | candidate {negated : Bool} {needle : Expression} {candidates : List Expression}
      {s s₁ : EvalState} {v : Term} {a : Expression} {s₂ : EvalState} :
      s.cancelled = false → exec (ev.eval row needle) s = (.ok v, s₁) →
      (a, s₂) ∈ loopRuns (ev.eval row) (candidateGoesOn v) candidates s₁ →
      SubEvaluation (.call (.operator (.special (.membership negated))) (needle :: candidates), s)
        (a, s₂)
  /-- A function registered for an IRI starts what its operator starts. -/
  | registered {iri : String} {op : Operator} {args : List Expression} {s : EvalState}
      {q : Expression × EvalState} :
      SubEvaluation (.call (.operator op) args, s) q →
      SubEvaluation (.call (.function iri (some op)) args, s) q

/-- A collaborator of the evaluator, called while a node started in a state is evaluated, fails
with an error: the extension function of a call, on the values of its arguments, or the
existence test. -/
inductive CollaboratorFails : Expression × EvalState → EvalError → Prop
  | extension {iri : String} {f : Extension} {args : List Expression} {s s₁ : EvalState}
      {values : List Term} {e : EvalError} :
      s.cancelled = false → ev.extension? iri = some f →
      exec (ev.evalArgs row args) s = (.ok values, s₁) → (f values).result = .error e →
      CollaboratorFails (.call (.function iri none) args, s) e
  | existence {negated : Bool} {pattern : String} {test : ExistenceTest} {s : EvalState}
      {e : EvalError} :
      s.cancelled = false → ev.existence = some test → (test pattern row).result = .error e →
      CollaboratorFails (.existence negated pattern, s) e

variable {ev row}

/-- One step of the propagation: an evaluation that a node starts directly and that fails with an
error that is not a query error makes the node fail with it. -/
theorem error_of_subEvaluation {p q : Expression × EvalState} (h : ev.SubEvaluation row p q)
    {e : EvalError} (he : e.isQueryError = false) (hfail : (exec (ev.eval row q.1) q.2).1 = .error e) :
    (exec (ev.eval row p.1) p.2).1 = .error e := by
  induction h with
  | argument hs hop hmem =>
      rw [eval_strict hop]
      exact exec_guarded_of_error hs (exec_bind_fst_of_error
        (loopShape_evalArgs.error_of_mem_loopRuns he () hmem hfail))
  | extensionArgument hs hf hmem =>
      rw [eval_extension, hf]
      exact exec_guarded_of_error hs (exec_bind_fst_of_error
        (loopShape_evalArgs.error_of_mem_loopRuns he () hmem hfail))
  | @operand decisive args s a s₁ hs hlen hmem =>
      have harity : exec (ofOutcome (checkArity (SpecialForm.connective decisive).name
          (.atLeast 2) args.length)) s = (.ok (), s) := by
        simp [checkArity, Arity.accepts, hlen]
      rw [eval_connective]
      exact exec_guarded_of_error hs (exec_bind_snd_of_error harity
        ((loopShape_connective _).error_of_mem_loopRuns he none hmem hfail))
  | condition hs =>
      rw [eval_conditional]
      exact exec_guarded_of_error hs (exec_bind_fst_of_error hfail)
  | @branch c t f s s₁ v b hs hc hv =>
      have hcondition : exec (ofOutcome v.ebv) s₁ = (.ok b, s₁) := by rw [exec_ofOutcome, hv]
      rw [eval_conditional]
      refine exec_guarded_of_error hs (exec_bind_snd_of_error hc
        (exec_bind_snd_of_error hcondition ?_))
      cases b <;> simpa using hfail
  | coalesced hs hmem =>
      rw [eval_coalesce]
      exact exec_guarded_of_error hs (loopShape_coalesce.error_of_mem_loopRuns he none hmem hfail)
  | needle hs =>
      rw [eval_membership]
      exact exec_guarded_of_error hs (exec_bind_fst_of_error hfail)
  | candidate hs hneedle hmem =>
      rw [eval_membership]
      exact exec_guarded_of_error hs (exec_bind_snd_of_error hneedle
        ((loopShape_membership _ _ _).error_of_mem_loopRuns he none hmem hfail))
  | registered _ ih =>
      rw [eval_function_some]
      exact ih hfail

/-- A node whose collaborator fails fails with the collaborator's error. -/
theorem error_of_collaboratorFails {p : Expression × EvalState} {e : EvalError}
    (h : ev.CollaboratorFails row p e) : (exec (ev.eval row p.1) p.2).1 = .error e := by
  cases h with
  | extension hs hf hargs hresult =>
      rw [eval_extension, hf]
      -- the reply's error is the node's, whether or not the reply also cancels
      exact exec_guarded_of_error hs (exec_bind_snd_of_error hargs (by rw [exec_ofReply, hresult]))
  | existence hs htest hresult =>
      rw [eval_existence, htest]
      exact exec_guarded_of_error hs (exec_bind_fst_of_error (by rw [exec_ofReply, hresult]))

/-- The propagation over a whole evaluation, by induction on the chain of evaluations from the
expression down to the one that fails. -/
theorem error_of_reflTransGen {p q : Expression × EvalState}
    (h : Relation.ReflTransGen (ev.SubEvaluation row) p q) {e : EvalError}
    (he : e.isQueryError = false) (hfail : (exec (ev.eval row q.1) q.2).1 = .error e) :
    (exec (ev.eval row p.1) p.2).1 = .error e := by
  induction h using Relation.ReflTransGen.head_induction_on with
  | refl => exact hfail
  | head hstep _ ih => exact error_of_subEvaluation hstep he ih

theorem evaluateEbv_error_of_eval_error {e : Expression} {s : EvalState} {err : EvalError}
    (h : (exec (ev.eval row e) s).1 = .error err) : (exec (ev.evaluateEbv row e) s).1 = .error err := by
  rw [exec_evaluateEbv, h]
  rfl

/-- A filter passes on every error that is not a query error, whatever its policy. -/
theorem filter_error_of_eval_error {e : Expression} {s : EvalState} {err : EvalError}
    (he : err.isQueryError = false) (h : (exec (ev.eval row e) s).1 = .error err) :
    (exec (ev.filter row e) s).1 = .error err := by
  have hebv := evaluateEbv_error_of_eval_error h
  rw [exec_filter]
  rcases hexec : exec (ev.evaluateEbv row e) s with ⟨o, s₁⟩
  rw [hexec] at hebv
  cases hebv
  simp [he]

/-- An aggregate fails with every error that is not a query error, on any solution it reaches. -/
theorem aggregate_error_of_mem_loopRuns (head : Aggregation) (body : Expression)
    {rows : List Solution} {s : EvalState} {r : Solution} {s₁ : EvalState} {err : EvalError}
    (he : err.isQueryError = false)
    (hmem : (r, s₁) ∈ loopRuns (fun r => ev.eval r body) rowGoesOn rows s)
    (h : (exec (ev.eval r body) s₁).1 = .error err) :
    (exec (ev.aggregate head body rows) s).1 = .error err := by
  have hvalues : (exec (ev.groupValues body rows) s).1 = .error err :=
    (loopShape_groupValues body).error_of_mem_loopRuns he () hmem h
  rw [exec_aggregate]
  rcases hexec : exec (ev.groupValues body rows) s with ⟨o, s₂⟩
  rw [hexec] at hvalues
  cases hvalues
  rfl

end Evaluator

/-- An error that is not a query error, of any evaluation performed while an expression is
evaluated or of any collaborator called meanwhile, is the error of the expression's value, of
its effective boolean value and of a filter over it under either error policy; and an aggregate
fails with such an error of any solution it reaches. -/
theorem nonQuery_errors_propagate (ev : Evaluator) :
    (∀ (row : Solution) (e a : Expression) (s s₁ : EvalState) (err : EvalError),
      Relation.ReflTransGen (ev.SubEvaluation row) (e, s) (a, s₁) →
      ((exec (ev.eval row a) s₁).1 = .error err ∨ ev.CollaboratorFails row (a, s₁) err) →
      err.isQueryError = false →
      (exec (ev.evaluate row e) s).1 = .error err ∧
        (exec (ev.evaluateEbv row e) s).1 = .error err ∧
        (exec (ev.filter row e) s).1 = .error err) ∧
    (∀ (head : Aggregation) (body : Expression) (rows : List Solution) (s : EvalState)
      (row : Solution) (s₁ : EvalState) (a : Expression) (s₂ : EvalState) (err : EvalError),
      (row, s₁) ∈ loopRuns (fun r => ev.eval r body) Evaluator.rowGoesOn rows s →
      Relation.ReflTransGen (ev.SubEvaluation row) (body, s₁) (a, s₂) →
      ((exec (ev.eval row a) s₂).1 = .error err ∨ ev.CollaboratorFails row (a, s₂) err) →
      err.isQueryError = false →
      (exec (ev.aggregate head body rows) s).1 = .error err) := by
  -- a failing collaborator makes its own node fail, so both parts reduce to a failing evaluation
  have hnode : ∀ {row : Solution} {a : Expression} {s₁ : EvalState} {err : EvalError},
      ((exec (ev.eval row a) s₁).1 = .error err ∨ ev.CollaboratorFails row (a, s₁) err) →
        (exec (ev.eval row a) s₁).1 = .error err := by
    rintro row a s₁ err (h | h)
    · exact h
    · exact Evaluator.error_of_collaboratorFails h
  refine ⟨?_, ?_⟩
  · intro row e a s s₁ err hchain hfail he
    have heval := Evaluator.error_of_reflTransGen hchain he (hnode hfail)
    exact ⟨heval, Evaluator.evaluateEbv_error_of_eval_error heval,
      Evaluator.filter_error_of_eval_error he heval⟩
  · intro head body rows s row s₁ a s₂ err hmem hchain hfail he
    exact Evaluator.aggregate_error_of_mem_loopRuns head body he hmem
      (Evaluator.error_of_reflTransGen hchain he (hnode hfail))

/-- The extension function that always fails with an external error. -/
def failingExtension : Extension := fun _ => { result := .error (.external "extension failed") }

/-- `coalesce(<urn:ext:fail>(), 1)` fails with the extension's external error: `coalesce` passes
on what is not a query error, and does not go on to its second argument. -/
theorem coalesce_of_failing_extension :
    let ev := ({ now := default } : Evaluator).withExtension "urn:ext:fail" failingExtension
    let call : Expression := .call (.function "urn:ext:fail" none) []
    let e : Expression := .call (.operator (.special .coalesce)) [call, .term (Term.integer 1)]
    Relation.ReflTransGen (ev.SubEvaluation Solution.empty) (e, {}) (call, {}) ∧
      ev.CollaboratorFails Solution.empty (call, {}) (.external "extension failed") ∧
      (EvalError.external "extension failed").isQueryError = false ∧
      (exec (ev.filter Solution.empty e) {}).1 = .error (.external "extension failed") := by
  intro ev call e
  have hf : ev.extension? "urn:ext:fail" = some failingExtension := rfl
  have hchain : Relation.ReflTransGen (ev.SubEvaluation Solution.empty) (e, {}) (call, {}) :=
    Relation.ReflTransGen.single (.coalesced rfl (mem_loopRuns_cons.mpr (.inl ⟨rfl, rfl⟩)))
  have hfails : ev.CollaboratorFails Solution.empty (call, {}) (.external "extension failed") :=
    .extension rfl hf rfl rfl
  have hkind : (EvalError.external "extension failed").isQueryError = false := rfl
  exact ⟨hchain, hfails, hkind,
    ((nonQuery_errors_propagate ev).1 _ e call _ _ _ hchain (.inr hfails) hkind).2.2⟩

end SparqlExpr
