import SparqlExpr.Proofs.ControlFlow

/-!
Membership: `in` and `notin`. The needle is evaluated once; the candidates are then evaluated
from the left, each from the state the one before it left, and compared with the needle by term
equality (`Term.equalTerms`). The result is read off these comparisons the way a connective's is
read off its operands (`connectiveRun`), with deciding value true for `in` and false for
`notin`: an equal candidate, or an error that is not a query error, ends the search; otherwise
the result is the first query error or incomparable pair, or else the other boolean.

The comparison is term equality itself and not the `=` operator. `=` first dispatches on its
table of category pairs, and a pair the table leaves out, such as a simple string and a
language-tagged string, is a type mismatch for `=` where term equality answers that the two
are unequal. The main statements:

* `Evaluator.exec_eval_membership`: the run of `in` or `notin`, outcome and final state;
* `Relation.apply_comparison`: a comparison operator applies its relation's test on the pairs
  its table registers and refuses the others, and `Relation.test_ofMembership`: `=` and `!=`
  test as `in` and `notin` compare;
* `membership_agrees_with_comparisons`: on steady operands, `in` agrees in kind with the
  disjunction of `=` (and `notin` with the conjunction of `!=`) as long as the table registers
  every pair on which term equality answers.
-/

namespace SparqlExpr

open EvalM Builtin

/-- The call of `in` (or `notin` when `negated`) on the needle and then the candidates. -/
def Expression.membership (negated : Bool) (args : List Expression) : Expression :=
  .call (.operator (.special (.membership negated))) args

/-- The comparison of a needle with one candidate value for the membership form `name`: true
when the candidate counts as a match for `in`, equal to the needle, or for `notin`, unequal to
it; a type mismatch naming both categories when term equality has no answer. -/
def Term.membershipTest (name : String) (negated : Bool) (needle t : Term) : Outcome Bool :=
  match Term.equalTerms needle t with
  | some b => .ok (b != negated)
  | none => .error (.typeMismatch name [needle.category, t.category])

namespace Evaluator

variable (ev : Evaluator) (row : Solution)

/-- The comparisons of a needle with candidates evaluated one after another, each from the state
the one before it left, with the state each evaluation leaves. -/
def candidateRuns (name : String) (negated : Bool) (needle : Term) :
    List Expression → EvalState → List (Outcome Bool × EvalState)
  | [], _ => []
  | c :: rest, s =>
    ((exec (ev.eval row c) s).1 >>= Term.membershipTest name negated needle,
      (exec (ev.eval row c) s).2) ::
      candidateRuns name negated needle rest (exec (ev.eval row c) s).2

variable {ev : Evaluator} {row : Solution}

/-- The membership loop over the remaining candidates runs as `connectiveRun` says of their
comparisons, with deciding value true for `in` and false for `notin`. -/
theorem exec_membership (name : String) (negated : Bool) (needle : Term) :
    ∀ (deferred : Option EvalError) (candidates : List Expression) (s : EvalState),
      exec (ev.membership row name negated needle deferred candidates) s =
        connectiveRun (!negated) deferred (ev.candidateRuns row name negated needle candidates s) s
  | some e, [], s => by
      rw [membership.eq_1, exec_throw, candidateRuns, connectiveRun_nil]
  | none, [], s => by
      rw [membership.eq_2, exec_pure, candidateRuns, connectiveRun_nil, Bool.not_not]
  | deferred, c :: rest, s => by
      rw [exec_membership_cons, candidateRuns, connectiveRun_cons]
      rcases exec (ev.eval row c) s with ⟨e | t, s₁⟩
      · -- a failed candidate is passed over when its error is a query error, and decides if not
        by_cases he : e.isQueryError
        · simp only [Outcome.error_bind, Decides, he, if_true, Bool.not_true, Bool.false_eq_true,
            if_false, Outcome.error?, or_some_eq]
          exact exec_membership name negated needle _ rest s₁
        · simp [Decides, he]
      · -- a candidate with a value decides exactly when it equals the needle
        dsimp only
        rcases heq : Term.equalTerms needle t with _ | _ | _ <;>
          simp only [Outcome.ok_bind, Term.membershipTest, heq]
        · simp only [Decides, EvalError.isQueryError, EvalError.kind, Bool.not_true,
            Bool.false_eq_true, if_false, Outcome.error?, or_some_eq]
          exact exec_membership name negated needle _ rest s₁
        · simp only [Decides, Bool.false_bne, Bool.beq_not_self, Bool.false_eq_true, if_false,
            Outcome.error?, Option.or_none]
          exact exec_membership name negated needle deferred rest s₁
        · simp [Decides]

/-- A comparison whose value is a boolean left the evaluation not cancelled. -/
theorem cancelled_of_mem_candidateRuns {name : String} {negated : Bool} {needle : Term} :
    ∀ {candidates : List Expression} {s : EvalState},
      ∀ r ∈ ev.candidateRuns row name negated needle candidates s,
        ∀ b, r.1 = .ok b → r.2.cancelled = false
  | [], _, r, hr => absurd hr List.not_mem_nil
  | c :: rest, s, r, hr => by
      rw [candidateRuns, List.mem_cons] at hr
      rcases hr with rfl | hr
      · intro b hb
        obtain ⟨t, ht, -⟩ := Outcome.bind_eq_ok_iff.mp hb
        exact cancelled_of_exec_eval (Prod.ext ht rfl)
      · exact cancelled_of_mem_candidateRuns r hr

/-- `in` (or `notin`) evaluates the needle once and then compares it with the candidates from
the left, each evaluated from the state the one before it left: it gives what `connectiveRun`
reads off the comparisons, outcome and final state, the first matching candidate deciding. An
error of the needle is the result, cancellation included. -/
theorem exec_eval_membership (negated : Bool) (needle : Expression)
    (candidates : List Expression) (s : EvalState) :
    exec (ev.eval row (Expression.membership negated (needle :: candidates))) s =
      match exec (ev.eval row needle) s with
      | (.ok v, s₁) => connectiveRun (!negated) none
          (ev.candidateRuns row (SpecialForm.membership negated).name negated v candidates s₁) s₁
      | (.error e, s₁) => (.error e, s₁) := by
  cases hs : s.cancelled
  · have hbody : exec (do
          let value ← ev.eval row needle
          ev.membership row (SpecialForm.membership negated).name negated value none candidates) s =
        match exec (ev.eval row needle) s with
        | (.ok v, s₁) => connectiveRun (!negated) none
            (ev.candidateRuns row (SpecialForm.membership negated).name negated v candidates s₁) s₁
        | (.error e, s₁) => (.error e, s₁) := by
      rw [exec_bind]
      rcases exec (ev.eval row needle) s with ⟨e | v, s₁⟩
      · rfl
      · exact exec_membership _ negated v none candidates s₁
    rw [Expression.membership, eval_membership, exec_guarded_of_not_cancelled _ hs fun t s' h => ?_,
      hbody]
    -- a boolean result comes after a needle with a value and comparisons that kept it live
    rw [hbody] at h
    rcases hexec : exec (ev.eval row needle) s with ⟨e | v, s₁⟩ <;> rw [hexec] at h
    · cases h
    · exact cancelled_of_connectiveRun cancelled_of_mem_candidateRuns
        (cancelled_of_exec_eval hexec) h
  · rw [exec_eval_of_cancelled _ hs, exec_eval_of_cancelled needle hs]

end Evaluator

namespace Relation

variable {rel : Relation}

/-- Every entry of a comparison table runs the relation's one computation. -/
theorem compute_of_mem_comparison :
    ∀ entry ∈ (comparison rel).entries, entry.2 = rel.compute := by
  unfold comparison Relation.compute
  split <;>
    simp only [OverloadBuilder.on, OverloadBuilder.onEach, OverloadBuilder.new, List.foldl,
      List.nil_append, List.forall_mem_append, List.forall_mem_map, List.forall_mem_cons] <;>
    simp

theorem name_comparison : (comparison rel).name = rel.symbol := by
  unfold comparison
  split <;> simp [OverloadBuilder.on, OverloadBuilder.onEach, OverloadBuilder.new, List.foldl]

theorem arity_comparison : (comparison rel).arity = 2 := by
  unfold comparison
  split <;> simp [OverloadBuilder.on, OverloadBuilder.onEach, OverloadBuilder.new, List.foldl]

/-- The operator the table of a comparison builds. -/
def operator (rel : Relation) : OverloadOperator :=
  ⟨(comparison rel).name, (comparison rel).arity, (comparison rel).entries⟩

/-- Every comparison table builds, into its entries as they were registered: its signatures are
pairs, each registered once. -/
theorem build_comparison (rel : Relation) : (comparison rel).build = .ok rel.operator := by
  apply (OverloadBuilder.build_isOk_iff _).2 <;> cases rel <;> decide +kernel

/-- What the operator of a comparison gives on two terms: the relation's test when its table
registers the pair of their categories, and a type mismatch naming the pair otherwise. -/
def tableTest (rel : Relation) (a b : Term) : Outcome Bool :=
  if [a.category, b.category] ∈ rel.operator.signatures then rel.test a b
  else .error (.typeMismatch rel.symbol [a.category, b.category])

/-- A comparison operator applied to two terms gives its table's test. -/
theorem apply_comparison (fresh : Nat) (a b : Term) :
    rel.operator.apply fresh [a, b] = (rel.tableTest a b).map Term.boolean := by
  have hnodup := ((OverloadBuilder.build_isOk_iff _).1.mp ⟨_, build_comparison rel⟩).2
  have hlen : [a, b].length = rel.operator.arity := by
    rw [operator, arity_comparison]
    rfl
  unfold tableTest
  split
  · rename_i hkey
    obtain ⟨entry, hentry, hfst⟩ := List.mem_map.mp hkey
    -- every entry runs the relation's computation, the one under this pair included
    have hmem : ([a, b].map Term.category, rel.compute) ∈ rel.operator.table := by
      rw [← compute_of_mem_comparison entry hentry, List.map_cons, List.map_cons,
        List.map_nil, ← hfst]
      exact hentry
    rw [OverloadOperator.apply_of_mem _ fresh hnodup hlen hmem]
    cases htest : rel.test a b <;> simp [Relation.compute, binary, htest]
  · rename_i hkey
    rw [OverloadOperator.apply_of_not_mem _ fresh hlen hkey]
    simp [operator, name_comparison]

/-- The comparison that `in` (`negated` false) and `notin` (`negated` true) stand for: `=` and
`!=`. -/
def ofMembership : Bool → Relation
  | false => eq
  | true => ne

/-- `=` tests as `in` compares and `!=` as `notin` does, each naming itself in a mismatch. -/
theorem test_ofMembership (negated : Bool) (a b : Term) :
    (ofMembership negated).test a b =
      Term.membershipTest (ofMembership negated).symbol negated a b := by
  unfold test Term.membershipTest
  cases negated <;> rcases Term.equalTerms a b with _ | _ | _ <;> rfl

end Relation

/-- Two outcomes agree in kind: the same value, or errors of the same kind. -/
def Outcome.SameKind {α : Type} : Outcome α → Outcome α → Prop
  | .ok a, .ok b => a = b
  | .error e, .error e' => e.kind = e'.kind
  | _, _ => False

namespace Outcome

variable {α β : Type} {o o' : Outcome α}

theorem SameKind.rfl : ∀ {o : Outcome α}, o.SameKind o
  | .ok _ => Eq.refl _
  | .error _ => Eq.refl _

theorem SameKind.map (f : α → β) (h : o.SameKind o') : SameKind (o.map f) (o'.map f) := by
  cases o <;> cases o' <;> simp_all [SameKind]

/-- A connective cannot tell apart two runs that agree in kind. -/
theorem SameKind.decides {decisive : Bool} {v v' : Outcome Bool} (h : v.SameKind v') :
    Decides decisive v = Decides decisive v' := by
  cases v <;> cases v' <;> simp_all [SameKind, Decides, EvalError.isQueryError]

theorem SameKind.or_error? {deferred deferred' : Option EvalError} {v v' : Outcome Bool}
    (h : v.SameKind v') (hdeferred : deferred.map EvalError.kind = deferred'.map EvalError.kind) :
    (deferred.or v.error?).map EvalError.kind = (deferred'.or v'.error?).map EvalError.kind := by
  cases deferred <;> cases deferred' <;> cases v <;> cases v' <;>
    simp_all [SameKind, Outcome.error?]

end Outcome

/-- A connective over runs that agree in kind one by one, with first query errors of the same
kind, has results that agree in kind, whatever the states. -/
theorem connectiveRun_sameKind {decisive : Bool} :
    ∀ (runs runs' : List (Outcome Bool × EvalState)) (deferred deferred' : Option EvalError)
      (s s' : EvalState),
      List.Forall₂ Outcome.SameKind (runs.map Prod.fst) (runs'.map Prod.fst) →
      deferred.map EvalError.kind = deferred'.map EvalError.kind →
      (connectiveRun decisive deferred runs s).1.SameKind
        (connectiveRun decisive deferred' runs' s').1
  | [], [], deferred, deferred', s, s', _, hdeferred => by
      rw [connectiveRun_nil, connectiveRun_nil]
      cases deferred <;> cases deferred' <;> simp_all [Outcome.SameKind]
  | (v, s₁) :: runs, (v', s₁') :: runs', deferred, deferred', s, s', hruns, hdeferred => by
      rw [List.map_cons, List.map_cons, List.forall₂_cons] at hruns
      obtain ⟨hv, hrest⟩ := hruns
      rw [connectiveRun_cons, connectiveRun_cons, hv.decides]
      split
      · exact hv.map Term.boolean
      · exact connectiveRun_sameKind runs runs' _ _ s₁ s₁' hrest (hv.or_error? hdeferred)
  | [], _ :: _, _, _, _, _, hruns, _ => by simp at hruns
  | _ :: _, [], _, _, _, _, hruns, _ => by simp at hruns

theorem connectiveRun_single (decisive : Bool) (v : Outcome Bool) (s₁ s : EvalState) :
    (connectiveRun decisive none [(v, s₁)] s).1 = v.map Term.boolean := by
  rw [connectiveRun_cons, connectiveRun_nil]
  cases v with
  | error e => cases he : e.isQueryError <;> simp [Decides, Outcome.error?, he]
  | ok b => cases b <;> cases decisive <;> simp [Decides, Outcome.error?]

/-- The call of the operator of `rel` on the needle and a candidate. -/
def Expression.comparison (rel : Relation) (needle c : Expression) : Expression :=
  .call (.operator (.overloaded rel.operator)) [needle, c]

/-- Comparisons joined by a connective: the one comparison itself, or the connective of two or
more. -/
def Expression.joined (decisive : Bool) : List Expression → Expression
  | [e] => e
  | es => Expression.connective decisive es

namespace Evaluator

variable {ev : Evaluator} {row : Solution}

/-- An expression whose evaluation, from any state before cancellation, has the outcome `o` and
leaves the state as it was: it draws no fresh number and cancels nothing. -/
def Steady (ev : Evaluator) (row : Solution) (e : Expression) (o : Outcome Term) : Prop :=
  ∀ s : EvalState, s.cancelled = false → exec (ev.eval row e) s = (o, s)

theorem steady_term (t : Term) : ev.Steady row (.term t) (.ok t) := fun s hs => by
  rw [eval.eq_1]
  exact exec_guarded_pure t hs

/-- A variable the solution binds. -/
theorem steady_of_lookup {name : String} {t : Term} (ht : row.lookup? name = some t) :
    ev.Steady row (.var name) (.ok t) := fun s hs => by
  rw [eval.eq_2, ht]
  exact exec_guarded_pure t hs

/-- The comparisons of a needle with steady candidates are those of their outcomes. -/
theorem candidateRuns_of_steady {name : String} {negated : Bool} {v : Term}
    {candidates : List Expression} {outcomes : List (Outcome Term)}
    (h : List.Forall₂ (ev.Steady row) candidates outcomes) {s : EvalState}
    (hs : s.cancelled = false) :
    (ev.candidateRuns row name negated v candidates s).map Prod.fst =
      outcomes.map (· >>= Term.membershipTest name negated v) := by
  induction h with
  | nil => rfl
  | cons hc _ ih => rw [candidateRuns, hc s hs, List.map_cons, List.map_cons, ih]

/-- A comparison of a steady needle with a steady candidate gives the table's test on their
values and leaves the evaluation live. -/
theorem exec_eval_comparison (rel : Relation) {needle c : Expression} {v : Term}
    {o : Outcome Term} (hneedle : ev.Steady row needle (.ok v)) (hc : ev.Steady row c o)
    {s : EvalState} (hs : s.cancelled = false) :
    (exec (ev.eval row (Expression.comparison rel needle c)) s).1 =
        (o >>= rel.tableTest v).map Term.boolean ∧
      (exec (ev.eval row (Expression.comparison rel needle c)) s).2.cancelled = false := by
  have hargs : exec (ev.evalArgs row [needle, c]) s = (o.map fun t => [v, t], s) := by
    rw [exec_evalArgs_cons, hneedle s hs]
    dsimp only
    rw [exec_evalArgs_cons, hc s hs]
    cases o <;> rfl
  rw [Expression.comparison, eval_strict (by simp [Operator.opClass]),
    exec_guarded_of_not_cancelled_eq _ hs, exec_bind, exec_bind, hargs]
  cases o with
  | error e => exact ⟨rfl, hs⟩
  | ok t =>
      -- one fresh number is drawn, and the closing check passes
      simp only [Except.map, exec_bind, exec_fresh, exec_ofOutcome, Operator.applyEvaluated,
        Relation.apply_comparison]
      cases htest : rel.tableTest v t <;> simp [exec_checkCancelled, hs, htest]

/-- The comparisons of a steady needle with steady candidates, run one after another, have the
table's tests of the candidates' outcomes as values. -/
theorem operandRuns_comparisons (rel : Relation) {needle : Expression} {v : Term}
    (hneedle : ev.Steady row needle (.ok v)) {candidates : List Expression}
    {outcomes : List (Outcome Term)} (h : List.Forall₂ (ev.Steady row) candidates outcomes) :
    ∀ {s : EvalState}, s.cancelled = false →
      (ev.operandRuns row (candidates.map (Expression.comparison rel needle)) s).map Prod.fst =
        outcomes.map (· >>= rel.tableTest v) := by
  induction h with
  | nil => intro s _; rfl
  | cons hc _ ih =>
      intro s hs
      obtain ⟨hvalue, hlive⟩ := exec_eval_comparison rel hneedle hc hs
      rw [List.map_cons, operandRuns, List.map_cons, List.map_cons, hvalue,
        map_boolean_bind_ebv, ih hlive]

end Evaluator

/-- On a candidate whose pair of categories with the needle the table registers, or on which
term equality has no answer, membership and the comparison it stands for agree in kind. -/
theorem sameKind_membershipTest_tableTest (name : String) (negated : Bool) {v : Term}
    {o : Outcome Term}
    (htable : ∀ t, o = .ok t → [v.category, t.category] ∈
      (Relation.ofMembership negated).operator.signatures ∨ Term.equalTerms v t = none) :
    (o >>= Term.membershipTest name negated v).SameKind
      (o >>= (Relation.ofMembership negated).tableTest v) := by
  cases o with
  | error e => exact Outcome.SameKind.rfl
  | ok t =>
      simp only [Outcome.ok_bind, Relation.tableTest, Relation.test_ofMembership]
      rcases htable t rfl with hkey | hnone
      · -- the same comparison, naming different operators in a mismatch
        rw [if_pos hkey]
        unfold Term.membershipTest
        cases Term.equalTerms v t <;> rfl
      · -- term equality has no answer: both are type mismatches
        split <;> simp [Term.membershipTest, hnone, Outcome.SameKind, EvalError.kind]

/-- `in` (`notin`) on a steady needle and steady candidates agrees in kind with the disjunction
of `=` (the conjunction of `!=`) of the needle with each candidate, one comparison standing
alone: the same boolean, or errors of the same kind, as long as every candidate's value forms
with the needle's value a pair of categories the operator's table registers, or a pair on which
term equality has no answer. -/
theorem membership_agrees_with_comparisons (ev : Evaluator) (row : Solution) (negated : Bool)
    (needle : Expression) (v : Term) (candidates : List Expression)
    (outcomes : List (Outcome Term)) (s : EvalState)
    (hneedle : ev.Steady row needle (.ok v))
    (hcandidates : List.Forall₂ (ev.Steady row) candidates outcomes)
    (htable : ∀ t, .ok t ∈ outcomes → [v.category, t.category] ∈
      (Relation.ofMembership negated).operator.signatures ∨ Term.equalTerms v t = none)
    (hne : candidates ≠ []) :
    (exec (ev.eval row (Expression.membership negated (needle :: candidates))) s).1.SameKind
      (exec (ev.eval row (Expression.joined (!negated)
        (candidates.map (Expression.comparison (Relation.ofMembership negated) needle)))) s).1 := by
  cases hs : s.cancelled
  · rw [Evaluator.exec_eval_membership, hneedle s hs]
    dsimp only
    -- the runs of both sides, value by value, agree in kind
    have hruns : List.Forall₂ Outcome.SameKind
        (outcomes.map (· >>= Term.membershipTest (SpecialForm.membership negated).name negated v))
        (outcomes.map (· >>= (Relation.ofMembership negated).tableTest v)) := by
      rw [List.forall₂_map_left_iff, List.forall₂_map_right_iff, List.forall₂_same]
      intro o ho
      exact sameKind_membershipTest_tableTest _ negated fun t ht => htable t (ht ▸ ho)
    rw [← Evaluator.candidateRuns_of_steady hcandidates hs,
      ← Evaluator.operandRuns_comparisons _ hneedle hcandidates hs] at hruns
    obtain ⟨c, rest, rfl⟩ := List.exists_cons_of_ne_nil hne
    cases rest with
    | nil =>
        -- one candidate: the comparison stands alone
        obtain ⟨o, rfl⟩ : ∃ o, outcomes = [o] := by
          cases hcandidates with
          | cons _ hrest => cases hrest; exact ⟨_, rfl⟩
        have hc : ev.Steady row c o := by
          cases hcandidates
          assumption
        rw [List.map_cons, List.map_nil, Expression.joined,
          (Evaluator.exec_eval_comparison _ hneedle hc hs).1, Evaluator.candidateRuns,
          Evaluator.candidateRuns, hc s hs, connectiveRun_single]
        exact (sameKind_membershipTest_tableTest _ negated fun t ht =>
          htable t (by rw [← ht]; exact List.mem_singleton_self o)).map Term.boolean
    | cons c' rest =>
        simp only [List.map_cons, Expression.joined]
        rw [Evaluator.exec_eval_connective _ (by simp)]
        exact connectiveRun_sameKind _ _ none none s s hruns rfl
  · rw [Evaluator.exec_eval_of_cancelled _ hs, Evaluator.exec_eval_of_cancelled _ hs]
    exact Outcome.SameKind.rfl

/-- `?x in (2, 1)` with `x` bound to 1: the needle and the candidates are steady, and integers
are compared by the table of `=`. -/
theorem variable_in_integers :
    ({ now := default } : Evaluator).Steady { bindings := [("x", Term.integer 1)] } (.var "x")
      (.ok (Term.integer 1)) ∧
    List.Forall₂ (({ now := default } : Evaluator).Steady { bindings := [("x", Term.integer 1)] })
      [.term (Term.integer 2), .term (Term.integer 1)]
      [.ok (Term.integer 2), .ok (Term.integer 1)] ∧
    (∀ t, .ok t ∈ [(.ok (Term.integer 2) : Outcome Term), .ok (Term.integer 1)] →
      [(Term.integer 1).category, t.category] ∈
        (Relation.ofMembership false).operator.signatures ∨
      Term.equalTerms (Term.integer 1) t = none) ∧
    [Expression.term (Term.integer 2), .term (Term.integer 1)] ≠ [] ∧
    (exec (({ now := default } : Evaluator).eval { bindings := [("x", Term.integer 1)] }
        (Expression.membership false
          [.var "x", .term (Term.integer 2), .term (Term.integer 1)])) {}).1.SameKind
      (exec (({ now := default } : Evaluator).eval { bindings := [("x", Term.integer 1)] }
        (Expression.joined true
          ([Expression.term (Term.integer 2), .term (Term.integer 1)].map
            (Expression.comparison (Relation.ofMembership false) (.var "x"))))) {}).1 := by
  have hneedle : ({ now := default } : Evaluator).Steady { bindings := [("x", Term.integer 1)] }
      (.var "x") (.ok (Term.integer 1)) :=
    Evaluator.steady_of_lookup rfl
  have hcandidates : List.Forall₂
      (({ now := default } : Evaluator).Steady { bindings := [("x", Term.integer 1)] })
      [.term (Term.integer 2), .term (Term.integer 1)]
      [.ok (Term.integer 2), .ok (Term.integer 1)] :=
    .cons (Evaluator.steady_term _) (.cons (Evaluator.steady_term _) .nil)
  have htable : ∀ t, .ok t ∈ [(.ok (Term.integer 2) : Outcome Term), .ok (Term.integer 1)] →
      [(Term.integer 1).category, t.category] ∈
        (Relation.ofMembership false).operator.signatures ∨
      Term.equalTerms (Term.integer 1) t = none := by
    intro t ht
    simp only [List.mem_cons, Except.ok.injEq, List.not_mem_nil, or_false] at ht
    rcases ht with rfl | rfl <;> exact .inl (by decide +kernel)
  exact ⟨hneedle, hcandidates, htable, by simp, membership_agrees_with_comparisons _ _ false
    (.var "x") _ _ _ {} hneedle hcandidates htable (by simp)⟩

/-- A simple string is not `in` the list of the same text tagged `en`, while `=` on the same two
terms is a type mismatch: the table of `=` has no entry for a string and a language string,
and term equality answers that the two are unequal. -/
theorem membership_answers_where_equality_refuses :
    (exec (({ now := default } : Evaluator).eval Solution.empty
        (Expression.membership false
          [.term (Term.string "a"), .term (.literal (Literal.langString "a" "en"))])) {}).1 =
      .ok (Term.boolean false) ∧
    Outcome.error? (exec (({ now := default } : Evaluator).eval Solution.empty
        (Expression.comparison .eq (.term (Term.string "a"))
          (.term (.literal (Literal.langString "a" "en"))))) {}).1 =
      some (.typeMismatch "=" [.string, .langString]) :=
  ⟨rfl, by decide +kernel⟩

end SparqlExpr
