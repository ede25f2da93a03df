import SparqlExpr.Proofs.Connective
import SparqlExpr.Proofs.Preservation

/-!
The control flow of evaluation, said once.

The evaluator has five list loops: the arguments of a strict call (a fixed or overloaded
operator, a registered function, an extension function), the operands of `&&` and `||`, the
arguments of `coalesce`, the candidates of `in` and `notin`, and the solutions of an aggregate.
Each evaluates one element at a time, each from the state the one before it left, and after an
element either goes on with the rest or stops where that element left the state; an error that
is not a query error always stops it and is its error. `EvalM.LoopShape` names these four facts
and each loop has its instance (`loopShape_evalArgs`, `loopShape_connective`, ...), proved from
the loop's equation at a first element. `EvalM.loopRuns` lists the evaluations a loop performs,
each with the state it starts from.

What is proved later about error propagation and cancellation is derived from the shapes, and
from one equation per kind of node (`exec_eval_strict_of_error`, `exec_filter`, ...), never from
the loops' own definitions.
-/

namespace SparqlExpr

open EvalM

namespace EvalM

variable {ι σ β : Type}

/-- The evaluations a loop over `xs` performs: each element from the state the one before it
left, going on after an element exactly when `goesOn` holds of its outcome. -/
def loopRuns (run : ι → EvalM Term) (goesOn : Outcome Term → Bool) :
    List ι → EvalState → List (ι × EvalState)
  | [], _ => []
  | x :: rest, s =>
    (x, s) :: if goesOn (exec (run x) s).1 then loopRuns run goesOn rest (exec (run x) s).2 else []

/-- One run ends as another: in the same state, and failing with every error the other fails
with. -/
def EndsAs {α γ : Type} (r : Outcome α × EvalState) (r' : Outcome γ × EvalState) : Prop :=
  r.2 = r'.2 ∧ ∀ e, r'.1 = .error e → r.1 = .error e

theorem EndsAs.refl {α : Type} (r : Outcome α × EvalState) : EndsAs r r :=
  ⟨rfl, fun _ h => h⟩

/-- What a loop of the evaluator does after each element: `loop acc xs` runs over `xs`, with
`acc` what it carries from the elements before (a deferred error, say), and `run x` evaluates an
element. -/
structure LoopShape (run : ι → EvalM Term) (goesOn : Outcome Term → Bool)
    (loop : σ → List ι → EvalM β) : Prop where
  /-- A loop over nothing leaves the state as it is. -/
  nil : ∀ acc s, (exec (loop acc []) s).2 = s
  /-- After an element it goes on from, the loop ends as a loop over the rest started in the
  state that element left. -/
  next : ∀ acc x rest s, goesOn (exec (run x) s).1 = true →
    ∃ acc', EndsAs (exec (loop acc (x :: rest)) s) (exec (loop acc' rest) (exec (run x) s).2)
  /-- After any other element the loop stops in the state that element left. -/
  stop : ∀ acc x rest s, goesOn (exec (run x) s).1 = false →
    (exec (loop acc (x :: rest)) s).2 = (exec (run x) s).2
  /-- An error that is not a query error stops the loop and is its error. -/
  fatal : ∀ acc x rest s e, (exec (run x) s).1 = .error e → e.isQueryError = false →
    goesOn (.error e) = false ∧ (exec (loop acc (x :: rest)) s).1 = .error e

theorem mem_loopRuns_cons {run : ι → EvalM Term} {goesOn : Outcome Term → Bool} {x y : ι}
    {rest : List ι} {s s₁ : EvalState} :
    (y, s₁) ∈ loopRuns run goesOn (x :: rest) s ↔
      (y = x ∧ s₁ = s) ∨
        (goesOn (exec (run x) s).1 = true ∧ (y, s₁) ∈ loopRuns run goesOn rest (exec (run x) s).2) := by
  rw [loopRuns, List.mem_cons, Prod.mk.injEq]
  cases goesOn (exec (run x) s).1 <;> simp

/-- A guarded step started before cancellation fails with every error its body fails with. -/
theorem exec_guarded_of_error {m : EvalM Term} {s : EvalState} {e : EvalError}
    (hs : s.cancelled = false) (h : (exec m s).1 = .error e) :
    (exec (guarded m) s).1 = .error e := by
  rw [exec_guarded_of_not_cancelled_eq m hs, exec_bind]
  rcases hexec : exec m s with ⟨o, s₁⟩
  rw [hexec] at h
  cases h
  rfl

/-- A bind fails with every error its first step fails with. -/
theorem exec_bind_fst_of_error {α γ : Type} {m : EvalM α} {f : α → EvalM γ} {s : EvalState}
    {e : EvalError} (h : (exec m s).1 = .error e) : (exec (m >>= f) s).1 = .error e := by
  rw [exec_bind]
  rcases hexec : exec m s with ⟨o, s₁⟩
  rw [hexec] at h
  cases h
  rfl

/-- A bind whose first step gives a value fails with every error the rest fails with from the
state that step left. -/
theorem exec_bind_snd_of_error {α γ : Type} {m : EvalM α} {f : α → EvalM γ} {s s₁ : EvalState}
    {a : α} {e : EvalError} (hm : exec m s = (.ok a, s₁)) (h : (exec (f a) s₁).1 = .error e) :
    (exec (m >>= f) s).1 = .error e := by
  rw [exec_bind_of_ok hm, h]

end EvalM

/-- Whether a loop that tolerates query errors goes on after an outcome: after a value as
`onValue` says, after a query error always, after any other error never. -/
def Outcome.goesOn (onValue : Term → Bool) : Outcome Term → Bool
  | .ok t => onValue t
  | .error e => e.isQueryError

namespace Evaluator

/-- `&&` (`decisive` false) or `||` (`decisive` true) goes on after an operand that does not
decide it. -/
def operandGoesOn (decisive : Bool) (o : Outcome Term) : Bool := !Decides decisive (o >>= Term.ebv)

/-- `coalesce` goes on after an argument that failed with a query error. -/
def coalesceGoesOn : Outcome Term → Bool := Outcome.goesOn fun _ => false

/-- `in` and `notin` go on after a candidate that is not equal to the needle's value, or that
failed with a query error. -/
def candidateGoesOn (needle : Term) : Outcome Term → Bool :=
  Outcome.goesOn fun t => Term.equalTerms needle t != some true

/-- An aggregate goes on after a solution with a value, and after one that failed with a query
error. -/
def rowGoesOn : Outcome Term → Bool := Outcome.goesOn fun _ => true

variable {ev : Evaluator} {row : Solution}

section Nodes

/-- A call of a fixed or overloaded operator evaluates its arguments, then applies the operator
to their values with a fresh number. -/
theorem eval_strict {op : Operator} (hop : op.opClass ≠ .special) (args : List Expression) :
    ev.eval row (.call (.operator op) args) = guarded (do
      let values ← ev.evalArgs row args
      ofOutcome (op.applyEvaluated (← fresh) values)) := by
  apply eval.eq_13
  rintro form rfl
  exact hop rfl

/-- A call of an extension function evaluates its arguments, calls the function on their values
and takes its reply, which may cancel the evaluation. -/
theorem eval_extension (iri : String) (args : List Expression) :
    ev.eval row (.call (.function iri none) args) = guarded (do
      match ev.extension? iri with
      | some f =>
        let values ← ev.evalArgs row args
        ofReply (f values)
      | none => throw (.unimplemented iri)) :=
  eval.eq_3 ev row iri args

theorem eval_conditional (c t f : Expression) :
    ev.eval row (.call (.operator (.special .conditional)) [c, t, f]) = guarded (do
      let condition ← ofOutcome (← ev.eval row c).ebv
      if condition then ev.eval row t else ev.eval row f) := by
  rw [eval.eq_def]

theorem eval_coalesce (args : List Expression) :
    ev.eval row (.call (.operator (.special .coalesce)) args) = guarded (ev.coalesce row none args) := by
  rw [eval.eq_def]

theorem eval_membership (negated : Bool) (needle : Expression) (candidates : List Expression) :
    ev.eval row (.call (.operator (.special (.membership negated))) (needle :: candidates)) =
      guarded (do
        let value ← ev.eval row needle
        ev.membership row (SpecialForm.membership negated).name negated value none candidates) := by
  rw [eval.eq_def]

theorem eval_existence (negated : Bool) (pattern : String) :
    ev.eval row (.existence negated pattern) = guarded (do
      match ev.existence with
      | some test =>
        let found ← ofReply (test pattern row)
        pure (Term.boolean (found != negated))
      | none => throw (.unimplemented "exists")) :=
  eval.eq_24 ev row negated pattern

theorem exec_evaluateEbv (e : Expression) (s : EvalState) :
    exec (ev.evaluateEbv row e) s =
      ((exec (ev.eval row e) s).1 >>= Term.ebv, (exec (ev.eval row e) s).2) := by
  unfold evaluateEbv
  rw [exec_bind]
  rcases exec (ev.eval row e) s with ⟨_ | t, s₁⟩
  · rfl
  · exact exec_ofOutcome _ _

/-- A filter passes on the outcome of the effective boolean value, except that a query error
counts as false when the settings exclude such solutions. -/
theorem exec_filter (e : Expression) (s : EvalState) :
    exec (ev.filter row e) s =
      match exec (ev.evaluateEbv row e) s with
      | (.ok b, s₁) => (.ok b, s₁)
      | (.error err, s₁) =>
        (if err.isQueryError && ev.config.filterErrors == .exclude then .ok false else .error err,
          s₁) := by
  unfold filter
  rw [exec_bind, exec_attempt]
  rcases exec (ev.evaluateEbv row e) s with ⟨_ | b, s₁⟩
  · simp only
    split <;> rfl
  · rfl

/-- An aggregate folds the values of its group. -/
theorem exec_aggregate (head : Aggregation) (body : Expression) (rows : List Solution)
    (s : EvalState) :
    exec (ev.aggregate head body rows) s =
      match exec (ev.groupValues body rows) s with
      | (.ok values, s₁) =>
        (head.aggregator.fold (head.separator.getD ev.config.groupConcatSeparator)
          (if head.distinct then distinctTerms values else values), s₁)
      | (.error e, s₁) => (.error e, s₁) := by
  unfold aggregate
  rw [exec_bind]
  rcases exec (ev.groupValues body rows) s with ⟨_ | values, s₁⟩
  · rfl
  · exact exec_ofOutcome _ _

end Nodes

section Loops

theorem exec_evalArgs_cons (a : Expression) (rest : List Expression) (s : EvalState) :
    exec (ev.evalArgs row (a :: rest)) s =
      match exec (ev.eval row a) s with
      | (.ok t, s₁) =>
        match exec (ev.evalArgs row rest) s₁ with
        | (.ok ts, s₂) => (.ok (t :: ts), s₂)
        | (.error e, s₂) => (.error e, s₂)
      | (.error e, s₁) => (.error e, s₁) := by
  rw [evalArgs.eq_2, exec_bind]
  rcases exec (ev.eval row a) s with ⟨_ | t, s₁⟩
  · rfl
  · simp only
    rw [exec_bind]
    rcases exec (ev.evalArgs row rest) s₁ with ⟨_ | ts, s₂⟩ <;> rfl

theorem exec_coalesce_cons (last : Option EvalError) (a : Expression) (rest : List Expression)
    (s : EvalState) :
    exec (ev.coalesce row last (a :: rest)) s =
      match exec (ev.eval row a) s with
      | (.ok t, s₁) => (.ok t, s₁)
      | (.error e, s₁) =>
        if e.isQueryError then exec (ev.coalesce row (some e) rest) s₁ else (.error e, s₁) := by
  rw [coalesce.eq_2, exec_bind, exec_attempt]
  rcases exec (ev.eval row a) s with ⟨_ | t, s₁⟩
  · simp only
    split <;> rfl
  · rfl

theorem exec_membership_cons (name : String) (negated : Bool) (needle : Term)
    (deferred : Option EvalError) (c : Expression) (rest : List Expression) (s : EvalState) :
    exec (ev.membership row name negated needle deferred (c :: rest)) s =
      match exec (ev.eval row c) s with
      | (.ok t, s₁) =>
        match Term.equalTerms needle t with
        | some true => (.ok (Term.boolean !negated), s₁)
        | some false => exec (ev.membership row name negated needle deferred rest) s₁
        | none =>
          exec (ev.membership row name negated needle
            (some (deferred.getD (.typeMismatch name [needle.category, t.category]))) rest) s₁
      | (.error e, s₁) =>
        if e.isQueryError then
          exec (ev.membership row name negated needle (some (deferred.getD e)) rest) s₁
        else (.error e, s₁) := by
  rw [membership.eq_3, exec_bind, exec_attempt]
  rcases exec (ev.eval row c) s with ⟨_ | t, s₁⟩
  · simp only
    split <;> rfl
  · simp only
    rcases Term.equalTerms needle t with _ | _ | _ <;> rfl

theorem exec_groupValues_cons (body : Expression) (r : Solution) (rows : List Solution)
    (s : EvalState) :
    exec (ev.groupValues body (r :: rows)) s =
      match exec (ev.eval r body) s with
      | (.ok t, s₁) =>
        match exec (ev.groupValues body rows) s₁ with
        | (.ok ts, s₂) => (.ok (t :: ts), s₂)
        | (.error e, s₂) => (.error e, s₂)
      | (.error e, s₁) =>
        if e.isQueryError then exec (ev.groupValues body rows) s₁ else (.error e, s₁) := by
  rw [groupValues.eq_2, exec_bind, exec_attempt]
  rcases exec (ev.eval r body) s with ⟨_ | t, s₁⟩
  · simp only
    split <;> rfl
  · simp only
    rw [exec_bind]
    rcases exec (ev.groupValues body rows) s₁ with ⟨_ | ts, s₂⟩ <;> rfl

theorem exec_connective_cons (decisive : Bool) (deferred : Option EvalError) (a : Expression)
    (rest : List Expression) (s : EvalState) :
    exec (ev.connective row decisive deferred (a :: rest)) s =
      if Decides decisive ((exec (ev.eval row a) s).1 >>= Term.ebv) then
        (((exec (ev.eval row a) s).1 >>= Term.ebv).map Term.boolean, (exec (ev.eval row a) s).2)
      else
        exec (ev.connective row decisive
          (deferred.or (Outcome.error? ((exec (ev.eval row a) s).1 >>= Term.ebv))) rest)
          (exec (ev.eval row a) s).2 := by
  rw [exec_connective, operandRuns, connectiveRun_cons, exec_connective]

end Loops

section Shapes

theorem loopShape_evalArgs :
    LoopShape (ev.eval row) Except.isOk fun (_ : Unit) args => ev.evalArgs row args where
  nil _ _ := rfl
  next _ a rest s hgo := by
    refine ⟨(), ?_⟩
    rw [exec_evalArgs_cons]
    rcases hexec : exec (ev.eval row a) s with ⟨_ | t, s₁⟩
    · rw [hexec] at hgo
      cases hgo
    · dsimp only
      rcases exec (ev.evalArgs row rest) s₁ with ⟨_ | ts, s₂⟩
      · exact EndsAs.refl _
      · exact ⟨rfl, fun e h => by cases h⟩
  stop _ a rest s hgo := by
    rw [exec_evalArgs_cons]
    rcases hexec : exec (ev.eval row a) s with ⟨_ | t, s₁⟩
    · rfl
    · rw [hexec] at hgo
      cases hgo
  fatal _ a rest s e h _ := by
    refine ⟨rfl, ?_⟩
    rw [exec_evalArgs_cons]
    rcases hexec : exec (ev.eval row a) s with ⟨_ | t, s₁⟩ <;> rw [hexec] at h <;> cases h
    rfl

theorem loopShape_connective (decisive : Bool) :
    LoopShape (ev.eval row) (operandGoesOn decisive) fun deferred args =>
      ev.connective row decisive deferred args where
  nil deferred s := by
    cases deferred <;> rfl
  next deferred a rest s hgo := by
    have hnot : Decides decisive ((exec (ev.eval row a) s).1 >>= Term.ebv) = false := by
      simpa [operandGoesOn] using hgo
    exact ⟨_, by rw [exec_connective_cons, if_neg (by simp [hnot])]; exact EndsAs.refl _⟩
  stop deferred a rest s hgo := by
    have hdecides : Decides decisive ((exec (ev.eval row a) s).1 >>= Term.ebv) = true := by
      simpa [operandGoesOn] using hgo
    rw [exec_connective_cons, if_pos hdecides]
  fatal deferred a rest s e h he := by
    have hdecides : Decides decisive ((exec (ev.eval row a) s).1 >>= Term.ebv) = true := by
      simp [h, Decides, he]
    refine ⟨by simp [operandGoesOn, Decides, he], ?_⟩
    rw [exec_connective_cons, if_pos hdecides, h]
    rfl

theorem loopShape_coalesce :
    LoopShape (ev.eval row) coalesceGoesOn fun last args => ev.coalesce row last args where
  nil last s := rfl
  next last a rest s hgo := by
    rw [exec_coalesce_cons]
    rcases hexec : exec (ev.eval row a) s with ⟨_ | t, s₁⟩ <;> rw [hexec] at hgo
    · simp only [coalesceGoesOn, Outcome.goesOn] at hgo
      exact ⟨_, by dsimp only; rw [if_pos hgo]; exact EndsAs.refl _⟩
    · cases hgo
  stop last a rest s hgo := by
    rw [exec_coalesce_cons]
    rcases hexec : exec (ev.eval row a) s with ⟨_ | t, s₁⟩ <;> rw [hexec] at hgo
    simp only [coalesceGoesOn, Outcome.goesOn] at hgo
    simp only [hgo, Bool.false_eq_true, if_false]
  fatal last a rest s e h he := by
    refine ⟨by simp [coalesceGoesOn, Outcome.goesOn, he], ?_⟩
    rw [exec_coalesce_cons]
    rcases hexec : exec (ev.eval row a) s with ⟨_ | t, s₁⟩ <;> rw [hexec] at h <;> cases h
    simp [he]

theorem loopShape_membership (name : String) (negated : Bool) (needle : Term) :
    LoopShape (ev.eval row) (candidateGoesOn needle) fun deferred candidates =>
      ev.membership row name negated needle deferred candidates where
  nil deferred s := by
    cases deferred <;> rfl
  next deferred c rest s hgo := by
    rw [exec_membership_cons]
    rcases hexec : exec (ev.eval row c) s with ⟨_ | t, s₁⟩ <;> rw [hexec] at hgo
    · simp only [candidateGoesOn, Outcome.goesOn] at hgo
      exact ⟨_, by dsimp only; rw [if_pos hgo]; exact EndsAs.refl _⟩
    · simp only [candidateGoesOn, Outcome.goesOn, bne_iff_ne, ne_eq] at hgo
      dsimp only
      rcases heq : Term.equalTerms needle t with _ | _ | _
      · exact ⟨_, EndsAs.refl _⟩
      · exact ⟨_, EndsAs.refl _⟩
      · exact absurd heq hgo
  stop deferred c rest s hgo := by
    rw [exec_membership_cons]
    rcases hexec : exec (ev.eval row c) s with ⟨_ | t, s₁⟩ <;> rw [hexec] at hgo
    · simp only [candidateGoesOn, Outcome.goesOn] at hgo
      simp only [hgo, Bool.false_eq_true, if_false]
    · simp only [candidateGoesOn, Outcome.goesOn, bne_eq_false_iff_eq] at hgo
      simp only [hgo]
  fatal deferred c rest s e h he := by
    refine ⟨by simp [candidateGoesOn, Outcome.goesOn, he], ?_⟩
    rw [exec_membership_cons]
    rcases hexec : exec (ev.eval row c) s with ⟨_ | t, s₁⟩ <;> rw [hexec] at h <;> cases h
    simp [he]

theorem loopShape_groupValues (body : Expression) :
    LoopShape (fun r => ev.eval r body) rowGoesOn fun (_ : Unit) rows =>
      ev.groupValues body rows where
  nil _ _ := rfl
  next _ r rows s hgo := by
    refine ⟨(), ?_⟩
    rw [exec_groupValues_cons]
    rcases hexec : exec (ev.eval r body) s with ⟨_ | t, s₁⟩ <;> rw [hexec] at hgo
    · simp only [rowGoesOn, Outcome.goesOn] at hgo
      dsimp only
      rw [if_pos hgo]
      exact EndsAs.refl _
    · dsimp only
      rcases exec (ev.groupValues body rows) s₁ with ⟨_ | ts, s₂⟩
      · exact EndsAs.refl _
      · exact ⟨rfl, fun e h => by cases h⟩
  stop _ r rows s hgo := by
    rw [exec_groupValues_cons]
    rcases hexec : exec (ev.eval r body) s with ⟨_ | t, s₁⟩ <;> rw [hexec] at hgo
    · simp only [rowGoesOn, Outcome.goesOn] at hgo
      simp only [hgo, Bool.false_eq_true, if_false]
    · cases hgo
  fatal _ r rows s e h he := by
    refine ⟨by simp [rowGoesOn, Outcome.goesOn, he], ?_⟩
    rw [exec_groupValues_cons]
    rcases hexec : exec (ev.eval r body) s with ⟨_ | t, s₁⟩ <;> rw [hexec] at h <;> cases h
    simp [he]

end Shapes

end Evaluator

end SparqlExpr
