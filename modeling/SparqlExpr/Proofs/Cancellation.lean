import SparqlExpr.Proofs.ControlFlow

/-!
Cancellation ends evaluation.

The cancellation flag is checked before and after every node. Once it is set, every node that
starts fails with `cancelled` at once, and `cancelled` is not a query error, so no loop absorbs
it. An evaluation started before cancellation that ends with the flag set therefore fails with
`cancelled`, provided that an extension function or existence test asking for cancellation also
gives a value, as the driver's `urn:ext:cancel` does (`Evaluator.CancellingRepliesGiveValues`): a
collaborator that asked for cancellation and failed with a query error could have its error
absorbed by `coalesce` at the end of its arguments, and the evaluation would end with that
error.

`EvalM.ReportsCancel m` says that a run of `m` started before cancellation that ends with the
flag set fails with `cancelled`. It is kept by binds, by every loop (`LoopShape.reportsCancel`)
and by the guard around each node; `Evaluator.reportsCancel_eval` carries it over the whole tree.

The main statement, `cancellation_ends_evaluation`: after cancellation, evaluation, the effective
boolean value and a filter under either policy fail with `cancelled`, and so does an aggregate
over a group with a solution; cancellation while any of them runs makes it fail with `cancelled`.
An aggregate over an empty group evaluates no node and so never looks at the flag: it gives the
aggregate of no values even after cancellation (`cancelled_empty_count_is_zero`).
-/

namespace SparqlExpr

open EvalM

/-- A reply that asks for cancellation also gives a value. -/
def Reply.ValueWhenCancelling {α : Type} (r : Reply α) : Prop :=
  r.cancel = true → ∃ a, r.result = .ok a

namespace EvalM

variable {α β : Type}

/-- A run started before cancellation that ends with the evaluation cancelled fails with
`cancelled`. -/
def ReportsCancel (m : EvalM α) : Prop :=
  ∀ s, s.cancelled = false → (exec m s).2.cancelled = true → (exec m s).1 = .error .cancelled

/-- A run started before cancellation that fails and leaves the evaluation cancelled fails with
`cancelled`; a run that gives a value may end cancelled. -/
def ErrorsReportCancel (m : EvalM α) : Prop :=
  ∀ s e s', s.cancelled = false → exec m s = (.error e, s') → s'.cancelled = true → e = .cancelled

theorem cancelled_isQueryError : EvalError.cancelled.isQueryError = false := rfl

namespace ReportsCancel

variable {m : EvalM α}

theorem pure (a : α) : ReportsCancel (Pure.pure a : EvalM α) := by
  intro s hs h
  rw [exec_pure, hs] at h
  cases h

theorem throw (e : EvalError) : ReportsCancel (MonadExcept.throw e : EvalM α) := by
  intro s hs h
  rw [exec_throw, hs] at h
  cases h

theorem ofOutcome (o : Outcome α) : ReportsCancel (EvalM.ofOutcome o) := by
  intro s hs h
  rw [exec_ofOutcome, hs] at h
  cases h

theorem fresh : ReportsCancel EvalM.fresh := by
  intro s hs h
  rw [exec_fresh] at h
  exact absurd h (by simpa using hs)

/-- A run started before cancellation that gives a value leaves the evaluation not cancelled. -/
theorem live_of_ok (hm : ReportsCancel m) {s s' : EvalState} {a : α}
    (hs : s.cancelled = false) (hexec : exec m s = (.ok a, s')) : s'.cancelled = false := by
  cases hc : s'.cancelled
  · rfl
  · have := hm s hs (by rw [hexec]; exact hc)
    rw [hexec] at this
    cases this

theorem bind {f : α → EvalM β} (hm : ReportsCancel m) (hf : ∀ a, ReportsCancel (f a)) :
    ReportsCancel (m >>= f) := by
  intro s hs h
  rw [exec_bind] at h ⊢
  rcases hexec : exec m s with ⟨_ | a, s₁⟩
  · rw [hexec] at h
    have := hm s hs (by rw [hexec]; exact h)
    rw [hexec] at this
    cases this
    rfl
  · rw [hexec] at h
    exact hf a s₁ (hm.live_of_ok hs hexec) h

theorem errors (hm : ReportsCancel m) : ErrorsReportCancel m := by
  intro s e s' hs hexec hc
  have := hm s hs (by rw [hexec]; exact hc)
  rw [hexec] at this
  cases this
  rfl

end ReportsCancel

theorem ErrorsReportCancel.bind {m : EvalM α} {f : α → EvalM β} (hm : ReportsCancel m)
    (hf : ∀ a, ErrorsReportCancel (f a)) : ErrorsReportCancel (m >>= f) := by
  intro s e s' hs hexec hc
  rw [exec_bind] at hexec
  rcases hm₁ : exec m s with ⟨_ | a, s₁⟩
  · rw [hm₁] at hexec
    cases hexec
    exact hm.errors s _ _ hs hm₁ hc
  · rw [hm₁] at hexec
    exact hf a s₁ e s' (hm.live_of_ok hs hm₁) hexec hc

/-- A reply that gives a value whenever it cancels fails only with the flag as it found it. -/
theorem ErrorsReportCancel.ofReply {r : Reply α} (h : r.ValueWhenCancelling) :
    ErrorsReportCancel (EvalM.ofReply r) := by
  intro s e s' hs hexec hc
  rw [exec_ofReply] at hexec
  obtain ⟨hresult, rfl⟩ := Prod.mk.inj hexec
  cases hcancel : r.cancel
  · -- a reply that does not cancel leaves the flag as it found it
    simp [hcancel, hs] at hc
  · obtain ⟨a, ha⟩ := h hcancel
    rw [ha] at hresult
    cases hresult

/-- A step whose value is only passed on fails as the step does. -/
theorem ErrorsReportCancel.map {m : EvalM α} {g : α → β} (hm : ErrorsReportCancel m) :
    ErrorsReportCancel (m >>= fun a => pure (g a)) := by
  intro s e s' hs hexec hc
  rw [exec_bind] at hexec
  rcases hm₁ : exec m s with ⟨_ | a, s₁⟩
  · rw [hm₁] at hexec
    cases hexec
    exact hm s _ _ hs hm₁ hc
  · rw [hm₁] at hexec
    simp at hexec

/-- The checks around a node report cancellation once the node's own errors do. -/
theorem ReportsCancel.guarded {m : EvalM Term} (hm : ErrorsReportCancel m) :
    ReportsCancel (guarded m) := by
  intro s hs h
  rw [exec_guarded_of_not_cancelled_eq m hs, exec_bind] at h ⊢
  rcases hexec : exec m s with ⟨_ | t, s₁⟩
  · rw [hexec] at h
    rw [hm s _ s₁ hs hexec h]
  · -- the closing check fails exactly when the node left the evaluation cancelled
    rw [hexec] at h
    dsimp only at h ⊢
    rw [exec_checkCancelled_pure] at h ⊢
    simp only at h
    simp [h]

variable {ι σ : Type} {run : ι → EvalM Term} {goesOn : Outcome Term → Bool}
  {loop : σ → List ι → EvalM β}

/-- A loop whose element runs report cancellation reports it too: an element that leaves the
evaluation cancelled fails with `cancelled`, which stops the loop. -/
theorem LoopShape.reportsCancel (hshape : LoopShape run goesOn loop) :
    ∀ (xs : List ι), (∀ x ∈ xs, ReportsCancel (run x)) → ∀ acc, ReportsCancel (loop acc xs)
  | [], _, acc => by
      intro s hs h
      rw [hshape.nil, hs] at h
      cases h
  | x :: rest, hrun, acc => by
      intro s hs h
      cases hx : (exec (run x) s).2.cancelled with
      | true =>
          have hcancelled := hrun x List.mem_cons_self s hs hx
          exact (hshape.fatal acc x rest s .cancelled hcancelled cancelled_isQueryError).2
      | false =>
          -- the first element left the evaluation running: the loop goes on from there or stops
          cases hgo : goesOn (exec (run x) s).1 with
          | true =>
              obtain ⟨acc', hends⟩ := hshape.next acc x rest s hgo
              rw [hends.1] at h
              exact hends.2 _ (LoopShape.reportsCancel hshape rest
                (fun y hy => hrun y (List.mem_cons_of_mem x hy)) acc' _ hx h)
          | false =>
              rw [hshape.stop acc x rest s hgo, hx] at h
              cases h

end EvalM

namespace Evaluator

/-- The extension functions and the existence test that ask for cancellation give a value, as
the driver's `urn:ext:cancel` does. -/
def CancellingRepliesGiveValues (ev : Evaluator) : Prop :=
  (∀ entry ∈ ev.extensions, ∀ values, (entry.2 values).ValueWhenCancelling) ∧
    ∀ test, ev.existence = some test → ∀ pattern row, (test pattern row).ValueWhenCancelling

variable {ev : Evaluator} {row : Solution} {args : List Expression}

theorem reportsCancel_evalArgs (hsub : ∀ a ∈ args, ReportsCancel (ev.eval row a)) :
    ReportsCancel (ev.evalArgs row args) :=
  loopShape_evalArgs.reportsCancel args hsub ()

/-- A call of an extension function reports cancellation: the function's error leaves the flag
as the arguments left it, and a function that cancels gives a value, which the closing check
turns into `cancelled`. -/
theorem reportsCancel_eval_extension (hext : ev.CancellingRepliesGiveValues) (iri : String)
    (hsub : ∀ a ∈ args, ReportsCancel (ev.eval row a)) :
    ReportsCancel (ev.eval row (.call (.function iri none) args)) := by
  rw [eval_extension]
  refine ReportsCancel.guarded ?_
  split
  · rename_i f hf
    exact ErrorsReportCancel.bind (reportsCancel_evalArgs hsub) fun values =>
      ErrorsReportCancel.ofReply (hext.1 (iri, f) (mem_of_assocFind? hf) values)
  · exact (ReportsCancel.throw _).errors

/-- A call of an operator reports cancellation when its argument expressions do. -/
theorem reportsCancel_eval_operator (op : Operator)
    (hsub : ∀ a ∈ args, ReportsCancel (ev.eval row a)) :
    ReportsCancel (ev.eval row (.call (.operator op) args)) := by
  rw [eval.eq_def]
  simp only
  refine ReportsCancel.guarded (ReportsCancel.errors ?_)
  split
  · split
    -- `&&` and `||`
    · exact (ReportsCancel.ofOutcome _).bind fun _ =>
        (loopShape_connective false).reportsCancel args hsub none
    · exact (ReportsCancel.ofOutcome _).bind fun _ =>
        (loopShape_connective true).reportsCancel args hsub none
    -- `if`: the condition, then one branch
    · refine (hsub _ (by simp)).bind fun v => (ReportsCancel.ofOutcome _).bind fun b => ?_
      split
      · exact hsub _ (by simp)
      · exact hsub _ (by simp)
    · exact loopShape_coalesce.reportsCancel args hsub none
    · exact ReportsCancel.pure _
    · exact ReportsCancel.throw _
    -- `in` and `notin`: the needle, then the candidates
    · exact (hsub _ (by simp)).bind fun v =>
        (loopShape_membership _ _ v).reportsCancel _ (fun a ha => hsub a (by simp [ha])) none
    · exact ReportsCancel.pure _
    · exact ReportsCancel.throw _
  · exact (reportsCancel_evalArgs hsub).bind fun _ =>
      ReportsCancel.fresh.bind fun _ => ReportsCancel.ofOutcome _

/-- An existence test reports cancellation as an extension function does: a test that cancels
gives a value, which the closing check turns into `cancelled`. -/
theorem reportsCancel_eval_existence (hext : ev.CancellingRepliesGiveValues) (negated : Bool)
    (pattern : String) : ReportsCancel (ev.eval row (.existence negated pattern)) := by
  rw [eval_existence]
  refine ReportsCancel.guarded ?_
  split
  · rename_i test htest
    exact (ErrorsReportCancel.ofReply (hext.2 test htest pattern row)).map
  · exact (ReportsCancel.throw _).errors

/-- Every evaluation reports cancellation, by recursion over the expression: each node reports
it once its argument expressions do. -/
theorem reportsCancel_eval (hext : ev.CancellingRepliesGiveValues) :
    ∀ e : Expression, ReportsCancel (ev.eval row e)
  | .term t => by
      rw [eval.eq_def]
      exact ReportsCancel.guarded (ReportsCancel.pure t).errors
  | .var name => by
      rw [eval.eq_def]
      refine ReportsCancel.guarded (ReportsCancel.errors ?_)
      split
      · exact ReportsCancel.pure _
      · exact ReportsCancel.throw _
  | .call (.function iri none) args =>
      reportsCancel_eval_extension hext iri fun a ha => reportsCancel_eval hext a
  | .call (.operator op) args =>
      reportsCancel_eval_operator op fun a ha => reportsCancel_eval hext a
  | .call (.function iri (some op)) args => by
      rw [eval_function_some]
      exact reportsCancel_eval_operator op fun a ha => reportsCancel_eval hext a
  | .existence negated pattern => reportsCancel_eval_existence hext negated pattern
  | .aggregate head body => by
      rw [eval.eq_def]
      exact ReportsCancel.guarded (ReportsCancel.throw _).errors
termination_by e => sizeOf e
decreasing_by
  all_goals
    have := List.sizeOf_lt_of_mem ha
    simp only [Expression.call.sizeOf_spec]
    omega

theorem reportsCancel_evaluateEbv (hext : ev.CancellingRepliesGiveValues) (e : Expression) :
    ReportsCancel (ev.evaluateEbv row e) :=
  (reportsCancel_eval hext e).bind fun _ => ReportsCancel.ofOutcome _

/-- A filter reports cancellation under either policy: `cancelled` is not a query error, so an
excluding filter does not turn it into false. -/
theorem reportsCancel_filter (hext : ev.CancellingRepliesGiveValues) (e : Expression) :
    ReportsCancel (ev.filter row e) := by
  intro s hs h
  rw [exec_filter] at h ⊢
  rcases hexec : exec (ev.evaluateEbv row e) s with ⟨_ | b, s₁⟩
  · rw [hexec] at h
    dsimp only at h ⊢
    have hcancelled := reportsCancel_evaluateEbv hext e s hs (by rw [hexec]; exact h)
    rw [hexec] at hcancelled
    cases hcancelled
    simp [cancelled_isQueryError]
  · rw [hexec] at h
    dsimp only at h
    rw [(reportsCancel_evaluateEbv hext e).live_of_ok hs hexec] at h
    cases h

theorem reportsCancel_aggregate (hext : ev.CancellingRepliesGiveValues) (head : Aggregation)
    (body : Expression) (rows : List Solution) : ReportsCancel (ev.aggregate head body rows) := by
  have hvalues : ReportsCancel (ev.groupValues body rows) :=
    (loopShape_groupValues body).reportsCancel rows (fun r _ => reportsCancel_eval hext body) ()
  intro s hs h
  rw [exec_aggregate] at h ⊢
  rcases hexec : exec (ev.groupValues body rows) s with ⟨_ | values, s₁⟩
  · rw [hexec] at h
    dsimp only at h ⊢
    have hcancelled := hvalues s hs (by rw [hexec]; exact h)
    rw [hexec] at hcancelled
    cases hcancelled
    rfl
  · rw [hexec] at h
    dsimp only at h
    rw [hvalues.live_of_ok hs hexec] at h
    cases h

theorem exec_evaluateEbv_of_cancelled (e : Expression) {s : EvalState} (hs : s.cancelled = true) :
    exec (ev.evaluateEbv row e) s = (.error .cancelled, s) := by
  rw [exec_evaluateEbv, exec_eval_of_cancelled e hs]
  rfl

theorem exec_filter_of_cancelled (e : Expression) {s : EvalState} (hs : s.cancelled = true) :
    exec (ev.filter row e) s = (.error .cancelled, s) := by
  rw [exec_filter, exec_evaluateEbv_of_cancelled e hs]
  rfl

/-- After cancellation an aggregate over a group with a solution fails with `cancelled`: the
first solution's evaluation does. -/
theorem exec_aggregate_of_cancelled (head : Aggregation) (body : Expression) (r : Solution)
    (rows : List Solution) {s : EvalState} (hs : s.cancelled = true) :
    (exec (ev.aggregate head body (r :: rows)) s).1 = .error .cancelled := by
  have hvalues : (exec (ev.groupValues body (r :: rows)) s).1 = .error .cancelled :=
    ((loopShape_groupValues body).fatal () r rows s .cancelled
      (by rw [exec_eval_of_cancelled body hs]) cancelled_isQueryError).2
  rw [exec_aggregate]
  rcases hexec : exec (ev.groupValues body (r :: rows)) s with ⟨o, s₁⟩
  rw [hexec] at hvalues
  cases hvalues
  rfl

/-- An aggregate over an empty group evaluates nothing: it is the aggregate of no values, in the
state it started in, cancelled or not. -/
theorem exec_aggregate_nil (head : Aggregation) (body : Expression) (s : EvalState) :
    exec (ev.aggregate head body []) s =
      (head.aggregator.fold (head.separator.getD ev.config.groupConcatSeparator) [], s) := by
  rw [exec_aggregate]
  cases head.distinct <;> rfl

end Evaluator

/-- After cancellation, evaluation, the effective boolean value and a filter under either policy
fail with `cancelled` and change nothing, and so does an aggregate over a group with a solution,
while an aggregate over an empty group gives the aggregate of no values. When the extension
functions and the existence test that ask for cancellation give a value, cancellation while any
of them runs makes it fail with `cancelled`. -/
theorem cancellation_ends_evaluation (ev : Evaluator) :
    (∀ (row : Solution) (e : Expression) (s : EvalState), s.cancelled = true →
      exec (ev.evaluate row e) s = (.error .cancelled, s) ∧
        exec (ev.evaluateEbv row e) s = (.error .cancelled, s) ∧
        exec (ev.filter row e) s = (.error .cancelled, s)) ∧
    (∀ (head : Aggregation) (body : Expression) (rows : List Solution) (s : EvalState),
      s.cancelled = true → rows ≠ [] →
        (exec (ev.aggregate head body rows) s).1 = .error .cancelled) ∧
    (∀ (head : Aggregation) (body : Expression) (s : EvalState),
      exec (ev.aggregate head body []) s =
        (head.aggregator.fold (head.separator.getD ev.config.groupConcatSeparator) [], s)) ∧
    (ev.CancellingRepliesGiveValues →
      (∀ (row : Solution) (e : Expression),
        ReportsCancel (ev.evaluate row e) ∧ ReportsCancel (ev.evaluateEbv row e) ∧
          ReportsCancel (ev.filter row e)) ∧
      ∀ (head : Aggregation) (body : Expression) (rows : List Solution),
        ReportsCancel (ev.aggregate head body rows)) := by
  refine ⟨?_, ?_, Evaluator.exec_aggregate_nil, fun hext => ⟨?_, ?_⟩⟩
  · intro row e s hs
    exact ⟨Evaluator.exec_eval_of_cancelled e hs, Evaluator.exec_evaluateEbv_of_cancelled e hs,
      Evaluator.exec_filter_of_cancelled e hs⟩
  · rintro head body (_ | ⟨r, rows⟩) s hs hrows
    · exact absurd rfl hrows
    · exact Evaluator.exec_aggregate_of_cancelled head body r rows hs
  · intro row e
    exact ⟨Evaluator.reportsCancel_eval hext e, Evaluator.reportsCancel_evaluateEbv hext e,
      Evaluator.reportsCancel_filter hext e⟩
  · exact Evaluator.reportsCancel_aggregate hext

/-- The extension function that asks for cancellation and gives integer 1. -/
def cancellingExtension : Extension := fun _ => { result := .ok (Term.integer 1), cancel := true }

/-- An existence test that asks for cancellation and finds a match. -/
def cancellingExistenceTest : ExistenceTest := fun _ _ => { result := .ok true, cancel := true }

/-- A call of `urn:ext:cancel`, and an existence test that cancels, leave the evaluation
cancelled and fail with `cancelled`. -/
theorem cancelling_extension_and_existence_test_cancel :
    let ev := (({ now := default } : Evaluator).withExtension "urn:ext:cancel"
      cancellingExtension).withExistenceTest cancellingExistenceTest
    let call : Expression := .call (.function "urn:ext:cancel" none) []
    let test : Expression := .existence false "p"
    ev.CancellingRepliesGiveValues ∧
      (exec (ev.evaluate Solution.empty call) {}).2.cancelled = true ∧
      (exec (ev.evaluate Solution.empty call) {}).1 = .error .cancelled ∧
      (exec (ev.evaluate Solution.empty test) {}).2.cancelled = true ∧
      (exec (ev.evaluate Solution.empty test) {}).1 = .error .cancelled := by
  intro ev call test
  have hext : ev.CancellingRepliesGiveValues := by
    refine ⟨fun entry hentry values _ => ?_, fun t ht pattern row _ => ?_⟩
    · simp only [ev, Evaluator.withExistenceTest, Evaluator.withExtension, assocInsert,
        List.any_nil, Bool.false_eq_true, if_false, List.nil_append, List.mem_singleton] at hentry
      subst hentry
      exact ⟨Term.integer 1, rfl⟩
    · obtain rfl : cancellingExistenceTest = t := Option.some.inj ht
      exact ⟨true, rfl⟩
  have hcall : (exec (ev.evaluate Solution.empty call) {}).2.cancelled = true := rfl
  have htest : (exec (ev.evaluate Solution.empty test) {}).2.cancelled = true := rfl
  have hreports := ((cancellation_ends_evaluation ev).2.2.2 hext).1 Solution.empty
  exact ⟨hext, hcall, (hreports call).1 {} rfl hcall, htest, (hreports test).1 {} rfl htest⟩

/-- After cancellation, `count` over an empty group is still zero: no node is evaluated, so the
flag is never read. -/
theorem cancelled_empty_count_is_zero :
    exec (({ now := default } : Evaluator).aggregate { aggregator := .count } (.var "x") [])
        { cancelled := true } = (.ok (some (Term.integer 0)), { cancelled := true }) := rfl

end SparqlExpr
