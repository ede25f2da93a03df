import SparqlExpr.Proofs.ControlFlow

/-!
Evaluation reads a solution only at the variables of the expression.

Outside an existence test, the evaluator looks at the solution in two places: a variable node
reads its value, and `bound` reads whether its variable has one. Both name a variable that
occurs in the tree, so two solutions that give the same value (or none) to every variable of an
expression give the same evaluation: the same run, state for state, outcome and final state
alike. An existence test hands the whole solution to the caller's test, which may read any
variable; it is the one node excluded.

The proof follows the evaluator: each list loop (`evalArgs`, `connective`, `coalesce`,
`membership`) runs alike once its elements do, the call of an operator runs alike once its
arguments do, and `eval_congr` puts them together by recursion over the tree.
-/

namespace SparqlExpr

open EvalM

namespace Expression

mutual

/-- Whether an existence test occurs anywhere in the tree. -/
def containsExistence : Expression → Bool
  | existence .. => true
  | call _ args => anyContainsExistence args
  | aggregate _ body => body.containsExistence
  | _ => false

def anyContainsExistence : List Expression → Bool
  | [] => false
  | e :: es => e.containsExistence || anyContainsExistence es

end

theorem mem_argsVarOccurrences {x : String} :
    ∀ {args : List Expression}, x ∈ argsVarOccurrences args ↔ ∃ a ∈ args, x ∈ a.varOccurrences
  | [] => by simp [argsVarOccurrences]
  | a :: rest => by simp [argsVarOccurrences, mem_argsVarOccurrences]

theorem anyContainsExistence_eq_false :
    ∀ {args : List Expression},
      anyContainsExistence args = false ↔ ∀ a ∈ args, a.containsExistence = false
  | [] => by simp [anyContainsExistence]
  | a :: rest => by simp [anyContainsExistence, anyContainsExistence_eq_false]

/-- The variable names are the variables that occur, each once. -/
theorem mem_variableNames {e : Expression} {x : String} :
    x ∈ e.variableNames ↔ x ∈ e.varOccurrences :=
  List.mem_eraseDups

/-- Removing later duplicates leaves each element once. -/
theorem nodup_eraseDups_of_strings : ∀ names : List String, names.eraseDups.Nodup
  | [] => List.nodup_nil
  | x :: rest => by
      have : (rest.filter fun y => !y == x).length < rest.length + 1 :=
        Nat.lt_succ_of_le (List.length_filter_le _ _)
      rw [List.eraseDups_cons, List.nodup_cons]
      refine ⟨?_, nodup_eraseDups_of_strings _⟩
      simp [List.mem_eraseDups, List.mem_filter]
termination_by names => names.length

theorem nodup_variableNames (e : Expression) : e.variableNames.Nodup :=
  nodup_eraseDups_of_strings _

end Expression

/-- Two solutions agree on a list of names when each name has the same value in both, or none in
both. -/
def Solution.AgreeOn (names : List String) (row₁ row₂ : Solution) : Prop :=
  ∀ x ∈ names, row₁.lookup? x = row₂.lookup? x

namespace Solution.AgreeOn

variable {names names' : List String} {row₁ row₂ : Solution}

theorem mono (h : AgreeOn names row₁ row₂) (hsub : ∀ x ∈ names', x ∈ names) :
    AgreeOn names' row₁ row₂ :=
  fun x hx => h x (hsub x hx)

theorem isBound (h : AgreeOn names row₁ row₂) {x : String} (hx : x ∈ names) :
    row₁.isBound x = row₂.isBound x := by
  simp only [Solution.isBound, h x hx]

end Solution.AgreeOn

namespace Evaluator

variable {ev₁ ev₂ : Evaluator} {row₁ row₂ : Solution} {args : List Expression}

section Loops

/-- Every loop of the evaluator runs alike on two evaluations whose elements run alike. -/
theorem evalArgs_congr (h : ∀ a ∈ args, ev₁.eval row₁ a = ev₂.eval row₂ a) :
    ev₁.evalArgs row₁ args = ev₂.evalArgs row₂ args := by
  induction args with
  | nil => rw [evalArgs.eq_1, evalArgs.eq_1]
  | cons a rest ih =>
      rw [evalArgs.eq_2, evalArgs.eq_2, h a List.mem_cons_self,
        ih fun b hb => h b (List.mem_cons_of_mem a hb)]

theorem connective_congr (decisive : Bool) (h : ∀ a ∈ args, ev₁.eval row₁ a = ev₂.eval row₂ a)
    (deferred : Option EvalError) :
    ev₁.connective row₁ decisive deferred args = ev₂.connective row₂ decisive deferred args := by
  induction args generalizing deferred with
  | nil => cases deferred <;> rw [connective.eq_def, connective.eq_def]
  | cons a rest ih =>
      have hrest := ih fun b hb => h b (List.mem_cons_of_mem a hb)
      rw [connective.eq_3, connective.eq_3, h a List.mem_cons_self]
      simp only [hrest]

theorem coalesce_congr (h : ∀ a ∈ args, ev₁.eval row₁ a = ev₂.eval row₂ a)
    (last : Option EvalError) : ev₁.coalesce row₁ last args = ev₂.coalesce row₂ last args := by
  induction args generalizing last with
  | nil => rw [coalesce.eq_1, coalesce.eq_1]
  | cons a rest ih =>
      have hrest := ih fun b hb => h b (List.mem_cons_of_mem a hb)
      rw [coalesce.eq_2, coalesce.eq_2, h a List.mem_cons_self]
      simp only [hrest]

theorem membership_congr (name : String) (negated : Bool) (needle : Term)
    (h : ∀ a ∈ args, ev₁.eval row₁ a = ev₂.eval row₂ a) (deferred : Option EvalError) :
    ev₁.membership row₁ name negated needle deferred args =
      ev₂.membership row₂ name negated needle deferred args := by
  induction args generalizing deferred with
  | nil => cases deferred <;> rw [membership.eq_def, membership.eq_def]
  | cons a rest ih =>
      have hrest := ih fun b hb => h b (List.mem_cons_of_mem a hb)
      rw [membership.eq_3, membership.eq_3, h a List.mem_cons_self]
      simp only [hrest]

end Loops

section Nodes

/-- A call of an operator runs alike once its arguments do, the two evaluators show the same
current time, and `bound` finds its variable alike. -/
theorem eval_operator_congr (op : Operator) (hnow : ev₁.now = ev₂.now)
    (hargs : ∀ a ∈ args, ev₁.eval row₁ a = ev₂.eval row₂ a)
    (hbound : ∀ name, args = [.var name] → row₁.isBound name = row₂.isBound name) :
    ev₁.eval row₁ (.call (.operator op) args) = ev₂.eval row₂ (.call (.operator op) args) := by
  rw [eval.eq_def, eval.eq_def]
  simp only
  congr 1
  split
  · split
    -- `&&` and `||`
    · rw [connective_congr false hargs]
    · rw [connective_congr true hargs]
    -- `if`: the condition, then one branch
    · rw [hargs _ (by simp), hargs _ (by simp), hargs _ (by simp)]
    · rw [coalesce_congr hargs]
    -- `bound` reads the solution itself
    · rw [hbound _ rfl]
    · rfl
    -- `in` and `notin`: the needle, then the candidates
    · have hcandidates : ∀ a ∈ _, ev₁.eval row₁ a = ev₂.eval row₂ a :=
        fun a ha => hargs a (List.mem_cons_of_mem _ ha)
      rw [hargs _ List.mem_cons_self]
      simp only [membership_congr _ _ _ hcandidates]
    · simp only [nowTerm, hnow]
    · rfl
  · rw [evalArgs_congr hargs]

/-- A call of an extension function runs alike once its arguments do and the two evaluators
provide the same extension functions. -/
theorem eval_extension_congr (iri : String) (hext : ev₁.extensions = ev₂.extensions)
    (hargs : ∀ a ∈ args, ev₁.eval row₁ a = ev₂.eval row₂ a) :
    ev₁.eval row₁ (.call (.function iri none) args) =
      ev₂.eval row₂ (.call (.function iri none) args) := by
  rw [eval_extension, eval_extension, extension?, extension?, hext, evalArgs_congr hargs]

theorem eval_var_congr (name : String) (hrows : row₁.lookup? name = row₂.lookup? name) :
    ev₁.eval row₁ (.var name) = ev₂.eval row₂ (.var name) := by
  rw [eval.eq_2, eval.eq_2, hrows]

/-- An argument of a call without existence tests has none, and solutions that agree on the
call's variables agree on the argument's. -/
theorem argument_of_call {callee : Callee} {a : Expression} (ha : a ∈ args)
    (he : (Expression.call callee args).containsExistence = false)
    (hrows : Solution.AgreeOn (Expression.call callee args).varOccurrences row₁ row₂) :
    a.containsExistence = false ∧ Solution.AgreeOn a.varOccurrences row₁ row₂ := by
  rw [Expression.containsExistence, Expression.anyContainsExistence_eq_false] at he
  refine ⟨he a ha, hrows.mono fun x hx => ?_⟩
  rw [Expression.varOccurrences, Expression.mem_argsVarOccurrences]
  exact ⟨a, ha, hx⟩

/-- `bound` of a variable of the call finds it alike. -/
theorem isBound_of_call {callee : Callee}
    (hrows : Solution.AgreeOn (Expression.call callee args).varOccurrences row₁ row₂)
    (name : String) (hname : args = [.var name]) : row₁.isBound name = row₂.isBound name := by
  subst hname
  exact hrows.isBound (by simp [Expression.varOccurrences, Expression.argsVarOccurrences])

end Nodes

/-- Evaluation of an expression without existence tests runs alike under two solutions that
agree on its variables, by evaluators that show the same current time and provide the same
extension functions. -/
theorem eval_congr (hnow : ev₁.now = ev₂.now) (hext : ev₁.extensions = ev₂.extensions) :
    ∀ e : Expression, e.containsExistence = false →
      Solution.AgreeOn e.varOccurrences row₁ row₂ → ev₁.eval row₁ e = ev₂.eval row₂ e
  | .term t, _, _ => by rw [eval.eq_1, eval.eq_1]
  | .var name, _, hrows => eval_var_congr name (hrows name (by simp [Expression.varOccurrences]))
  | .call (.function iri none) args, he, hrows =>
      eval_extension_congr iri hext fun a ha =>
        eval_congr hnow hext a (argument_of_call ha he hrows).1 (argument_of_call ha he hrows).2
  | .call (.operator op) args, he, hrows =>
      eval_operator_congr op hnow (fun a ha =>
          eval_congr hnow hext a (argument_of_call ha he hrows).1 (argument_of_call ha he hrows).2)
        (isBound_of_call hrows)
  | .call (.function iri (some op)) args, he, hrows => by
      rw [eval_function_some, eval_function_some]
      exact eval_operator_congr op hnow (fun a ha =>
          eval_congr hnow hext a (argument_of_call ha he hrows).1 (argument_of_call ha he hrows).2)
        (isBound_of_call hrows)
  | .existence _ _, he, _ => by simp [Expression.containsExistence] at he
  | .aggregate head body, _, _ => by rw [eval.eq_def, eval.eq_def]
termination_by e => sizeOf e
decreasing_by
  all_goals
    have := List.sizeOf_lt_of_mem ha
    simp only [Expression.call.sizeOf_spec]
    omega

end Evaluator

/-- Evaluation of an expression without existence tests reads the solution only at the
expression's variables, which `variableNames` lists once each: under two solutions that give
every one of them the same value, or none, two evaluators with the same current time and the same
extension functions run alike from every state, to the same outcome and the same final state. -/
theorem evaluation_reads_only_variables (ev₁ ev₂ : Evaluator) (hnow : ev₁.now = ev₂.now)
    (hext : ev₁.extensions = ev₂.extensions) (e : Expression) (he : e.containsExistence = false)
    (row₁ row₂ : Solution) (hrows : ∀ x ∈ e.variableNames, row₁.lookup? x = row₂.lookup? x) :
    e.variableNames.Nodup ∧
      ∀ s : EvalState, exec (ev₁.evaluate row₁ e) s = exec (ev₂.evaluate row₂ e) s := by
  have hagree : Solution.AgreeOn e.varOccurrences row₁ row₂ :=
    fun x hx => hrows x (Expression.mem_variableNames.mpr hx)
  refine ⟨e.nodup_variableNames, fun s => ?_⟩
  rw [Evaluator.evaluate, Evaluator.evaluate, Evaluator.eval_congr hnow hext e he hagree]

/-- `bound(?x) || ?y` runs alike under a solution that also binds `?z` and one that binds only
`?x` and `?y`, in another order. -/
theorem bound_or_variable_reads_only_its_variables :
    let e : Expression := .call (.operator (.special .disjunction))
      [.call (.operator (.special .bound)) [.var "x"], .var "y"]
    let row₁ := Solution.ofList [("x", Term.integer 1), ("y", Term.boolean false),
      ("z", Term.integer 2)]
    let row₂ := Solution.ofList [("y", Term.boolean false), ("x", Term.integer 1)]
    let ev : Evaluator := { now := default }
    e.containsExistence = false ∧ (∀ x ∈ e.variableNames, row₁.lookup? x = row₂.lookup? x) ∧
      e.variableNames.Nodup ∧
        ∀ s : EvalState, exec (ev.evaluate row₁ e) s = exec (ev.evaluate row₂ e) s := by
  intro e row₁ row₂ ev
  have he : e.containsExistence = false := rfl
  have hrows : ∀ x ∈ e.variableNames, row₁.lookup? x = row₂.lookup? x := by
    intro x hx
    have hx' : x = "x" ∨ x = "y" := by
      simpa [e, Expression.variableNames, Expression.varOccurrences,
        Expression.argsVarOccurrences] using hx
    rcases hx' with rfl | rfl <;> rfl
  exact ⟨he, hrows, evaluation_reads_only_variables ev ev rfl rfl e he row₁ row₂ hrows⟩

end SparqlExpr
