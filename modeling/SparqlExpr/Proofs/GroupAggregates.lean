import SparqlExpr.Proofs.Extremum

/-!
Aggregates over a group, solution by solution.

The argument of an aggregate is evaluated on the solutions in order, each from the state the one
before it left (`Evaluator.groupRuns`), and the loop stops after a solution that fails with an
error that is not a query error. `keptValues` reads the values off these outcomes: a query error
is dropped, and the first other error is the result. With `distinct`, a value is kept exactly
when no value before it has its wire form, as a set of seen wire forms keeps it. COUNT, SAMPLE
and GROUP_CONCAT then fold what is left.

The main statement is `aggregate_over_group`.
-/

namespace SparqlExpr

open EvalM

/-- The values of a sequence of outcomes: each value in order, a query error dropped, and the
first other error as the result. -/
def keptValues : List (Outcome Term) → Outcome (List Term)
  | [] => .ok []
  | .ok t :: rest => (keptValues rest).map (t :: ·)
  | .error e :: rest => if e.isQueryError then keptValues rest else .error e

section Runs

variable {ι : Type} {run : ι → EvalM Term} {goesOn : Outcome Term → Bool}

/-- A loop evaluates elements of its list in order, each once, from the first on. -/
theorem map_fst_loopRuns_isPrefixOf :
    ∀ (xs : List ι) (s : EvalState), (loopRuns run goesOn xs s).map Prod.fst <+: xs
  | [], _ => List.nil_prefix
  | x :: rest, s => by
      rw [loopRuns, List.map_cons, List.cons_prefix_cons]
      refine ⟨rfl, ?_⟩
      split
      · exact map_fst_loopRuns_isPrefixOf rest _
      · exact List.nil_prefix

end Runs

namespace Evaluator

variable {ev : Evaluator} {body : Expression}

/-- The evaluations of an aggregate's argument over a group: each solution with the state its
evaluation starts from. -/
def groupRuns (ev : Evaluator) (body : Expression) (rows : List Solution) (s : EvalState) :
    List (Solution × EvalState) :=
  loopRuns (fun r => ev.eval r body) rowGoesOn rows s

/-- The outcomes of those evaluations, in order. -/
def groupOutcomes (ev : Evaluator) (body : Expression) (rows : List Solution) (s : EvalState) :
    List (Outcome Term) :=
  (ev.groupRuns body rows s).map fun p => (exec (ev.eval p.1 body) p.2).1

theorem groupOutcomes_cons (r : Solution) (rows : List Solution) (s : EvalState) :
    ev.groupOutcomes body (r :: rows) s =
      (exec (ev.eval r body) s).1 ::
        if rowGoesOn (exec (ev.eval r body) s).1 then
          ev.groupOutcomes body rows (exec (ev.eval r body) s).2
        else [] := by
  simp only [groupOutcomes, groupRuns, loopRuns, List.map_cons]
  split <;> rfl

theorem rowGoesOn_error (e : EvalError) : rowGoesOn (.error e) = e.isQueryError := rfl

/-- The values of a group are the values kept from the outcomes of its evaluations. -/
theorem exec_groupValues_fst :
    ∀ (rows : List Solution) (s : EvalState),
      (exec (ev.groupValues body rows) s).1 = keptValues (ev.groupOutcomes body rows s)
  | [], _ => rfl
  | r :: rows, s => by
      rw [exec_groupValues_cons, groupOutcomes_cons]
      rcases hexec : exec (ev.eval r body) s with ⟨e | t, s₁⟩
      · -- a query error is skipped, any other error ends the loop with it
        dsimp only
        rw [rowGoesOn_error]
        cases hq : e.isQueryError
        · simp [keptValues, hq]
        · simp only [if_true, keptValues, hq]
          exact exec_groupValues_fst rows s₁
      · dsimp only
        have ih := exec_groupValues_fst rows s₁
        rcases hrest : exec (ev.groupValues body rows) s₁ with ⟨e | ts, s₂⟩
        · rw [hrest] at ih
          simp [rowGoesOn, Outcome.goesOn, keptValues, ← ih]
        · rw [hrest] at ih
          simp [rowGoesOn, Outcome.goesOn, keptValues, ← ih]

/-- Every solution of the group is evaluated when none fails with an error that is not a query
error. -/
theorem map_fst_groupRuns_of_queryErrors :
    ∀ (rows : List Solution) (s : EvalState),
      (∀ e, .error e ∈ ev.groupOutcomes body rows s → e.isQueryError = true) →
      (ev.groupRuns body rows s).map Prod.fst = rows
  | [], _, _ => rfl
  | r :: rows, s, h => by
      rw [groupOutcomes_cons] at h
      have hgo : rowGoesOn (exec (ev.eval r body) s).1 = true := by
        rcases hexec : (exec (ev.eval r body) s).1 with e | t
        · exact h e (hexec ▸ List.mem_cons_self)
        · rfl
      rw [if_pos hgo] at h
      simp only [groupRuns, loopRuns, if_pos hgo, List.map_cons]
      exact congrArg (r :: ·) (map_fst_groupRuns_of_queryErrors rows _
        fun e he => h e (List.mem_cons_of_mem _ he))

/-- Only the last evaluation of a group can fail with an error that is not a query error. -/
theorem isQueryError_of_mem_dropLast :
    ∀ (rows : List Solution) (s : EvalState) (e : EvalError),
      .error e ∈ (ev.groupOutcomes body rows s).dropLast → e.isQueryError = true
  | [], _, _, h => by simp [groupOutcomes, groupRuns, loopRuns] at h
  | r :: rows, s, e, h => by
      rw [groupOutcomes_cons] at h
      by_cases hgo : rowGoesOn (exec (ev.eval r body) s).1 = true
      · rw [if_pos hgo] at h
        rcases hrest : ev.groupOutcomes body rows (exec (ev.eval r body) s).2 with _ | ⟨o, os⟩
        · simp [hrest] at h
        · rw [hrest, List.dropLast_cons_cons, List.mem_cons] at h
          rcases h with hfirst | hlater
          · rw [← hfirst] at hgo
            exact hgo
          · exact isQueryError_of_mem_dropLast rows _ e (hrest ▸ hlater)
      · rw [if_neg hgo] at h
        simp at h

end Evaluator

section Distinct

variable {α : Type}

/-- One step of the de-duplicating loop: the element joins the kept ones unless one of them is
related to it. -/
theorem eraseDupsBy_loop_cons (r : α → α → Bool) (a : α) (l acc : List α) :
    List.eraseDupsBy.loop r (a :: l) acc =
      List.eraseDupsBy.loop r l (if acc.any (r a) then acc else a :: acc) := by
  rw [List.eraseDupsBy.loop]
  split
  · rename_i hseen
    rw [if_pos hseen]
  · rename_i hseen
    rw [if_neg (by simp [hseen])]

/-- Appending an element to the input of the de-duplicating loop appends it to the output
unless an element already kept is related to it. -/
theorem eraseDupsBy_loop_append_singleton (r : α → α → Bool) (t : α) :
    ∀ (l acc : List α), List.eraseDupsBy.loop r (l ++ [t]) acc =
      List.eraseDupsBy.loop r l acc ++
        if (List.eraseDupsBy.loop r l acc).any (r t) then [] else [t]
  | [], acc => by
      rw [List.nil_append, eraseDupsBy_loop_cons, List.eraseDupsBy.loop, List.eraseDupsBy.loop,
        List.any_reverse]
      split <;> simp
  | a :: l, acc => by
      rw [List.cons_append, eraseDupsBy_loop_cons, eraseDupsBy_loop_cons]
      exact eraseDupsBy_loop_append_singleton r t l _

end Distinct

/-- The distinct values with one more value: it is appended unless a value already kept has its
wire form. -/
theorem distinctTerms_append_any (values : List Term) (t : Term) :
    distinctTerms (values ++ [t]) =
      distinctTerms values ++
        if (distinctTerms values).any (fun u => t.wire == u.wire) then [] else [t] :=
  eraseDupsBy_loop_append_singleton _ t values []

/-- Every wire form of the values is the wire form of a distinct value. -/
theorem exists_wire_mem_distinctTerms {values : List Term} {u : Term} (hu : u ∈ values) :
    ∃ v ∈ distinctTerms values, v.wire = u.wire := by
  induction values using List.reverseRecOn with
  | nil => exact absurd hu List.not_mem_nil
  | append_singleton l t ih =>
      rw [distinctTerms_append_any]
      rcases List.mem_append.mp hu with hu | hu
      · obtain ⟨v, hv, hwire⟩ := ih hu
        exact ⟨v, List.mem_append_left _ hv, hwire⟩
      · rw [List.mem_singleton.mp hu]
        split
        · rename_i hany
          obtain ⟨v, hv, hwire⟩ := List.any_eq_true.mp hany
          exact ⟨v, List.mem_append_left _ hv, (beq_iff_eq.mp hwire).symm⟩
        · exact ⟨t, List.mem_append_right _ (List.mem_singleton_self t), rfl⟩

/-- DISTINCT keeps a value exactly when no value before it has its wire form: appending a value
appends it to the distinct values unless such a value came before. -/
theorem distinctTerms_append_singleton (values : List Term) (t : Term) :
    distinctTerms (values ++ [t]) =
      distinctTerms values ++ if ∃ u ∈ values, u.wire = t.wire then [] else [t] := by
  rw [distinctTerms_append_any]
  -- a value already kept has the wire form exactly when an earlier value has it
  have hseen : (distinctTerms values).any (fun u => t.wire == u.wire) = true ↔
      ∃ u ∈ values, u.wire = t.wire := by
    rw [List.any_eq_true]
    constructor
    · rintro ⟨u, hu, hwire⟩
      exact ⟨u, mem_of_mem_distinctTerms hu, (beq_iff_eq.mp hwire).symm⟩
    · rintro ⟨u, hu, hwire⟩
      obtain ⟨v, hv, hvu⟩ := exists_wire_mem_distinctTerms hu
      exact ⟨v, hv, beq_iff_eq.mpr (hvu.trans hwire).symm⟩
  simp only [hseen]

section Folds

variable (separator : String) (values : List Term)

theorem Aggregator.fold_count :
    Aggregator.count.fold separator values = .ok (some (Term.integer values.length)) := rfl

theorem Aggregator.fold_sample : Aggregator.sample.fold separator values = .ok values.head? := rfl

/-- Only blank nodes and variables have no text. -/
theorem Term.strValue?_eq_none_iff {t : Term} :
    t.strValue? = none ↔ t.category = .blankNode ∨ t.category = .var := by
  cases t <;> simp [Term.strValue?, Term.category, Literal.category]

/-- The texts of values none of which is a blank node or a variable. -/
theorem mapM_lexicalArg_of_text (name : String) :
    ∀ (values : List Term), (∀ v ∈ values, v.strValue? ≠ none) →
      values.mapM (Builtin.lexicalArg name) = .ok (values.filterMap Term.strValue?)
  | [], _ => rfl
  | v :: rest, h => by
      obtain ⟨x, hx⟩ := Option.ne_none_iff_exists'.mp (h v List.mem_cons_self)
      have hrest := mapM_lexicalArg_of_text name rest fun w hw => h w (List.mem_cons_of_mem v hw)
      simp [Builtin.lexicalArg, hx, hrest]

/-- Reading the texts of values stops at the first blank node or variable, naming its
category. -/
theorem mapM_lexicalArg_of_no_text (name : String) :
    ∀ (values : List Term), (∃ v ∈ values, v.strValue? = none) →
      ∃ v ∈ values, v.strValue? = none ∧
        values.mapM (Builtin.lexicalArg name) = .error (.typeMismatch name [v.category])
  | [], h => by simp at h
  | v :: rest, h => by
      cases hv : v.strValue? with
      | none => exact ⟨v, List.mem_cons_self, hv, by simp [Builtin.lexicalArg, hv]⟩
      | some x =>
          have hrest : ∃ w ∈ rest, w.strValue? = none := by
            obtain ⟨w, hw, hwnone⟩ := h
            rcases List.mem_cons.mp hw with rfl | hw
            · rw [hv] at hwnone
              cases hwnone
            · exact ⟨w, hw, hwnone⟩
          obtain ⟨w, hw, hwnone, hmap⟩ := mapM_lexicalArg_of_no_text name rest hrest
          exact ⟨w, List.mem_cons_of_mem v hw, hwnone, by simp [Builtin.lexicalArg, hv, hmap]⟩

/-- GROUP_CONCAT joins the texts of the values with the separator, and fails with a type
mismatch naming the category of the first blank node or variable among them. -/
theorem Aggregator.fold_groupConcat :
    ((∀ v ∈ values, v.category ≠ .blankNode ∧ v.category ≠ .var) →
      Aggregator.groupConcat.fold separator values =
        .ok (some (Term.string (String.intercalate separator
          (values.filterMap Term.strValue?))))) ∧
    ((∃ v ∈ values, v.category = .blankNode ∨ v.category = .var) →
      ∃ v ∈ values, (v.category = .blankNode ∨ v.category = .var) ∧
        Aggregator.groupConcat.fold separator values =
          .error (.typeMismatch "group_concat" [v.category])) := by
  constructor
  · intro h
    have htext : ∀ v ∈ values, v.strValue? ≠ none := fun v hv hnone => by
      rcases Term.strValue?_eq_none_iff.mp hnone with hc | hc
      · exact (h v hv).1 hc
      · exact (h v hv).2 hc
    simp [Aggregator.fold, mapM_lexicalArg_of_text _ values htext]
  · rintro ⟨v, hv, hc⟩
    obtain ⟨w, hw, hwnone, hmap⟩ :=
      mapM_lexicalArg_of_no_text "group_concat" values ⟨v, hv, Term.strValue?_eq_none_iff.mpr hc⟩
    exact ⟨w, hw, Term.strValue?_eq_none_iff.mp hwnone, by simp [Aggregator.fold, hmap]⟩

end Folds

/-- An aggregate over a group evaluates its argument on the solutions in order, each from the
state the one before it left: all of them, unless one fails with an error that is not a query
error, which is then the last one evaluated. The values kept are those of the evaluations that
succeed, and the first error that is not a query error is the result. With DISTINCT, a value is
kept exactly when no value before it has its wire form. Of the values left, COUNT is their
number, SAMPLE the first, and GROUP_CONCAT their texts joined by the separator of the aggregate,
or by the configured one when it has none, failing with a type mismatch on the first blank node
or variable. -/
theorem aggregate_over_group (ev : Evaluator) (head : Aggregation) (body : Expression)
    (rows : List Solution) (s : EvalState) :
    (ev.groupRuns body rows s).map Prod.fst <+: rows ∧
    ((∀ e, .error e ∈ ev.groupOutcomes body rows s → e.isQueryError = true) →
      (ev.groupRuns body rows s).map Prod.fst = rows) ∧
    (∀ e, .error e ∈ (ev.groupOutcomes body rows s).dropLast → e.isQueryError = true) ∧
    (exec (ev.aggregate head body rows) s).1 =
      (keptValues (ev.groupOutcomes body rows s) >>= fun values =>
        head.aggregator.fold (head.separator.getD ev.config.groupConcatSeparator)
          (if head.distinct then distinctTerms values else values)) ∧
    (∀ values t, distinctTerms (values ++ [t]) =
      distinctTerms values ++ if ∃ u ∈ values, u.wire = t.wire then [] else [t]) ∧
    (∀ separator values,
      Aggregator.count.fold separator values = .ok (some (Term.integer values.length)) ∧
      Aggregator.sample.fold separator values = .ok values.head? ∧
      ((∀ v ∈ values, v.category ≠ .blankNode ∧ v.category ≠ .var) →
        Aggregator.groupConcat.fold separator values =
          .ok (some (Term.string (String.intercalate separator
            (values.filterMap Term.strValue?))))) ∧
      ((∃ v ∈ values, v.category = .blankNode ∨ v.category = .var) →
        ∃ v ∈ values, (v.category = .blankNode ∨ v.category = .var) ∧
          Aggregator.groupConcat.fold separator values =
            .error (.typeMismatch "group_concat" [v.category]))) := by
  refine ⟨map_fst_loopRuns_isPrefixOf rows s, Evaluator.map_fst_groupRuns_of_queryErrors rows s,
    Evaluator.isQueryError_of_mem_dropLast rows s, ?_, distinctTerms_append_singleton,
    fun separator values => ⟨Aggregator.fold_count separator values,
      Aggregator.fold_sample separator values, Aggregator.fold_groupConcat separator values⟩⟩
  rw [Evaluator.exec_aggregate, ← Evaluator.exec_groupValues_fst rows s]
  rcases exec (ev.groupValues body rows) s with ⟨e | values, s₁⟩ <;> rfl

end SparqlExpr
