import SparqlExpr.Aggregate
import SparqlExpr.Proofs.Builtins
import SparqlExpr.Proofs.Execution

/-!
Evaluation keeps terms well-formed. The terms an evaluation can return come from the constants
of the expression, the values of the solution, the operators and functions it calls, the
extension functions of the evaluator, or are made by the special forms themselves (booleans and
the current time); when the first three kinds are well-formed and the extension functions give
well-formed results on well-formed arguments, every value of an evaluation is well-formed, and so
is every result of an aggregate over solutions of well-formed values.

Each kind of node has its lemma (`yields_eval_var`, `yields_eval_extension`,
`yields_eval_operator`, ...) that takes the facts about its argument expressions as hypotheses;
`yields_eval` puts them together by recursion over the tree. The main statement,
`evaluation_wellFormed`, adds the constructors of literals and the reading of a literal from its
lexical form, and reads the result for the built-in operators and functions.
-/

namespace SparqlExpr

open Builtin EvalM

namespace Expression

mutual

/-- The terms written in an expression, from the root down and left to right. -/
def constants : Expression → List Term
  | term t => [t]
  | call _ args => argsConstants args
  | aggregate _ body => body.constants
  | _ => []

def argsConstants : List Expression → List Term
  | [] => []
  | e :: es => e.constants ++ argsConstants es

end

mutual

/-- The operators that an expression calls: those it was built with, and the functions found
registered for an IRI. -/
def operators : Expression → List Operator
  | call (.operator op) args => op :: argsOperators args
  | call (.function _ registered) args => registered.toList ++ argsOperators args
  | aggregate _ body => body.operators
  | _ => []

def argsOperators : List Expression → List Operator
  | [] => []
  | e :: es => e.operators ++ argsOperators es

end

theorem mem_argsConstants {t : Term} :
    ∀ {args : List Expression}, t ∈ argsConstants args ↔ ∃ a ∈ args, t ∈ a.constants
  | [] => by simp [argsConstants]
  | a :: rest => by simp [argsConstants, mem_argsConstants]

theorem mem_argsOperators {op : Operator} :
    ∀ {args : List Expression}, op ∈ argsOperators args ↔ ∃ a ∈ args, op ∈ a.operators
  | [] => by simp [argsOperators]
  | a :: rest => by simp [argsOperators, mem_argsOperators]

variable {callee : Callee} {args : List Expression} {a : Expression}

/-- The constants of an argument are constants of the call. -/
theorem constants_subset_of_mem (ha : a ∈ args) :
    ∀ t ∈ a.constants, t ∈ (call callee args).constants := fun _ ht =>
  mem_argsConstants.mpr ⟨a, ha, ht⟩

/-- The operators of an argument are operators of the call. -/
theorem operators_subset_of_mem (ha : a ∈ args) :
    ∀ op ∈ a.operators, op ∈ (call callee args).operators := by
  intro op hop
  have hargs : op ∈ argsOperators args := mem_argsOperators.mpr ⟨a, ha, hop⟩
  rcases callee with op' | ⟨iri, _ | op'⟩
  all_goals simp [operators, hargs]

end Expression

/-- A solution is well-formed when every value it binds is. -/
def Solution.WellFormed (row : Solution) : Prop := ∀ b ∈ row.bindings, b.2.WellFormed

theorem Solution.WellFormed.lookup? {row : Solution} (hrow : row.WellFormed) {name : String}
    {t : Term} (h : row.lookup? name = some t) : t.WellFormed := by
  simp only [Solution.lookup?, Option.map_eq_some_iff] at h
  obtain ⟨b, hfind, rfl⟩ := h
  exact hrow b (List.mem_of_find?_eq_some hfind)

/-- The extension functions give well-formed results on well-formed arguments. -/
def Evaluator.ExtensionsWellFormed (ev : Evaluator) : Prop :=
  ∀ entry ∈ ev.extensions, ∀ args : List Term, (∀ t ∈ args, t.WellFormed) →
    ∀ t, (entry.2 args).result = .ok t → t.WellFormed

/-- An operator that a registry holds, by name or as the function of an IRI. -/
def Registry.Provides (r : Registry) (op : Operator) : Prop :=
  ∃ name, (name, op) ∈ r.operators ∨ (name, op) ∈ r.functions

theorem Registry.All.of_provides {P : Operator → Prop} {r : Registry} (hr : r.All P)
    {op : Operator} (h : r.Provides op) : P op := by
  obtain ⟨name, hop | hop⟩ := h
  · exact hr.1 _ hop
  · exact hr.2 _ hop

theorem Registry.Sound.sound_of_provides {r : Registry} (hr : r.Sound) {op : Operator}
    (h : r.Provides op) : op.Sound :=
  Registry.All.of_provides hr h

namespace Evaluator

section Evaluation

variable {ev : Evaluator} {row : Solution}

/-- `&&` and `||` give booleans. -/
theorem yields_connective (decisive : Bool) :
    ∀ (deferred : Option EvalError) (args : List Expression),
      Yields Term.WellFormed (ev.connective row decisive deferred args)
  | some e, [] => by
      rw [connective.eq_1]
      exact Yields.throw e
  | none, [] => by
      rw [connective.eq_2]
      exact Yields.pure (Term.wellFormed_boolean _)
  | deferred, a :: rest => by
      rw [connective.eq_3]
      refine Yields.bind Yields.trivial fun o _ => ?_
      split
      · split
        · exact Yields.pure (Term.wellFormed_boolean _)
        · exact yields_connective decisive deferred rest
      · split
        · exact yields_connective decisive _ rest
        · exact Yields.throw _

/-- `in` and `notin` give booleans. -/
theorem yields_membership (name : String) (negated : Bool) (needle : Term) :
    ∀ (deferred : Option EvalError) (args : List Expression),
      Yields Term.WellFormed (ev.membership row name negated needle deferred args)
  | some e, [] => by
      rw [membership.eq_1]
      exact Yields.throw e
  | none, [] => by
      rw [membership.eq_2]
      exact Yields.pure (Term.wellFormed_boolean _)
  | deferred, a :: rest => by
      rw [membership.eq_3]
      refine Yields.bind Yields.trivial fun o _ => ?_
      split
      · split
        · exact Yields.pure (Term.wellFormed_boolean _)
        · exact yields_membership name negated needle deferred rest
        · exact yields_membership name negated needle _ rest
      · split
        · exact yields_membership name negated needle _ rest
        · exact Yields.throw _

variable {args : List Expression}

/-- `coalesce` gives the value of one of its arguments. -/
theorem yields_coalesce (hsub : ∀ a ∈ args, Yields Term.WellFormed (ev.eval row a))
    (last : Option EvalError) : Yields Term.WellFormed (ev.coalesce row last args) := by
  induction args generalizing last with
  | nil =>
      rw [coalesce.eq_1]
      exact Yields.throw _
  | cons a rest ih =>
      have hrest : ∀ b ∈ rest, Yields Term.WellFormed (ev.eval row b) :=
        fun b hb => hsub b (List.mem_cons_of_mem a hb)
      rw [coalesce.eq_2]
      refine Yields.bind (Yields.attempt (hsub a List.mem_cons_self)) fun o ho => ?_
      split
      · exact Yields.pure (ho _ rfl)
      · split
        · exact ih hrest _
        · exact Yields.throw _

theorem yields_evalArgs (hsub : ∀ a ∈ args, Yields Term.WellFormed (ev.eval row a)) :
    Yields (fun ts => ∀ t ∈ ts, t.WellFormed) (ev.evalArgs row args) := by
  induction args with
  | nil =>
      rw [evalArgs.eq_1]
      exact Yields.pure fun t ht => absurd ht List.not_mem_nil
  | cons a rest ih =>
      rw [evalArgs.eq_2]
      refine Yields.bind (hsub a List.mem_cons_self) fun t ht => ?_
      refine Yields.bind (ih fun b hb => hsub b (List.mem_cons_of_mem a hb)) fun ts hts => ?_
      refine Yields.pure fun u hu => ?_
      rcases List.mem_cons.mp hu with rfl | hu
      · exact ht
      · exact hts u hu

theorem yields_eval_term {t : Term} (ht : t.WellFormed) :
    Yields Term.WellFormed (ev.eval row (.term t)) := by
  rw [eval.eq_1]
  exact Yields.guarded (Yields.pure ht)

theorem yields_eval_var (hrow : row.WellFormed) (name : String) :
    Yields Term.WellFormed (ev.eval row (.var name)) := by
  rw [eval.eq_2]
  refine Yields.guarded ?_
  split
  · exact Yields.pure (hrow.lookup? ‹_›)
  · exact Yields.throw _

/-- A call of an extension function gives its result, well-formed on the well-formed values of
the arguments. -/
theorem yields_eval_extension (hext : ev.ExtensionsWellFormed) (iri : String)
    (hsub : ∀ a ∈ args, Yields Term.WellFormed (ev.eval row a)) :
    Yields Term.WellFormed (ev.eval row (.call (.function iri none) args)) := by
  rw [eval.eq_3]
  refine Yields.guarded ?_
  split
  · rename_i f hf
    have hresult := hext (iri, f) (mem_of_assocFind? hf)
    exact Yields.bind (yields_evalArgs hsub) fun values hvalues =>
      Yields.ofReply (hresult values hvalues)
  · exact Yields.throw _

/-- A call of a function registered for an IRI runs as the call of its operator. -/
theorem eval_function_some (iri : String) (op : Operator) :
    ev.eval row (.call (.function iri (some op)) args) = ev.eval row (.call (.operator op) args) := by
  rw [eval.eq_def, eval.eq_def]

/-- A call of a sound operator gives a well-formed value when its arguments do: a special form
gives a boolean, the current time or the value of an argument, and any other operator is
applied to the well-formed values of its arguments. -/
theorem yields_eval_operator {op : Operator} (hop : op.Sound)
    (hsub : ∀ a ∈ args, Yields Term.WellFormed (ev.eval row a)) :
    Yields Term.WellFormed (ev.eval row (.call (.operator op) args)) := by
  rw [eval.eq_def]
  simp only
  refine Yields.guarded ?_
  split
  · split
    -- `&&` and `||`
    · exact Yields.bind Yields.trivial fun _ _ => yields_connective false none args
    · exact Yields.bind Yields.trivial fun _ _ => yields_connective true none args
    -- `if`: the condition, then one branch
    · refine Yields.bind Yields.trivial fun _ _ => Yields.bind Yields.trivial fun b _ => ?_
      split
      · exact hsub _ (by simp)
      · exact hsub _ (by simp)
    · exact yields_coalesce hsub none
    · exact Yields.pure (Term.wellFormed_boolean _)
    · exact Yields.throw _
    · exact Yields.bind Yields.trivial fun value _ => yields_membership _ _ value none _
    · exact Literal.wellFormed_dateTime ev.now |> Yields.pure
    · exact Yields.throw _
  · refine Yields.bind (yields_evalArgs hsub) fun values hvalues => ?_
    refine Yields.bind Yields.trivial fun fresh _ => Yields.ofOutcome fun t ht => ?_
    exact hop.wellFormed_of_ok hvalues ht

theorem yields_eval_existence (negated : Bool) (pattern : String) :
    Yields Term.WellFormed (ev.eval row (.existence negated pattern)) := by
  rw [eval.eq_def]
  simp only
  refine Yields.guarded ?_
  split
  · exact Yields.bind Yields.trivial fun _ _ => Yields.pure (Term.wellFormed_boolean _)
  · exact Yields.throw _

theorem yields_eval_aggregate (head : Aggregation) (body : Expression) :
    Yields Term.WellFormed (ev.eval row (.aggregate head body)) := by
  rw [eval.eq_def]
  exact Yields.guarded (Yields.throw _)

/-- What is assumed of a call's constants and operators holds of each argument, so a fact
about every argument that needs it holds outright. -/
theorem forall_args_of_call {callee : Callee} {P : Expression → Prop}
    (hc : ∀ t ∈ (Expression.call callee args).constants, t.WellFormed)
    (ho : ∀ op ∈ (Expression.call callee args).operators, op.Sound)
    (h : ∀ a ∈ args, (∀ t ∈ a.constants, t.WellFormed) → (∀ op ∈ a.operators, op.Sound) → P a) :
    ∀ a ∈ args, P a := fun a ha =>
  h a ha (fun t ht => hc t (Expression.constants_subset_of_mem ha t ht))
    (fun op hop => ho op (Expression.operators_subset_of_mem ha op hop))

/-- Every value of an expression whose constants are well-formed and whose operators are sound,
under a well-formed solution and extension functions that keep well-formedness, is
well-formed. -/
theorem yields_eval (hext : ev.ExtensionsWellFormed) (hrow : row.WellFormed) :
    ∀ e : Expression, (∀ t ∈ e.constants, t.WellFormed) → (∀ op ∈ e.operators, op.Sound) →
      Yields Term.WellFormed (ev.eval row e)
  | .term t, hc, _ => yields_eval_term (hc t (by simp [Expression.constants]))
  | .var name, _, _ => yields_eval_var hrow name
  | .call (.function iri none) args, hc, ho =>
      yields_eval_extension hext iri
        (forall_args_of_call hc ho fun a ha => yields_eval hext hrow a)
  | .call (.operator op) args, hc, ho =>
      yields_eval_operator (ho op (by simp [Expression.operators]))
        (forall_args_of_call hc ho fun a ha => yields_eval hext hrow a)
  | .call (.function iri (some op)) args, hc, ho => by
      rw [eval_function_some]
      exact yields_eval_operator (ho op (by simp [Expression.operators]))
        (forall_args_of_call hc ho fun a ha => yields_eval hext hrow a)
  | .existence negated pattern, _, _ => yields_eval_existence negated pattern
  | .aggregate head body, _, _ => yields_eval_aggregate head body
termination_by e => sizeOf e
decreasing_by
  all_goals
    have := List.sizeOf_lt_of_mem ha
    simp only [Expression.call.sizeOf_spec]
    omega

/-- Over the built-in operators and functions, every operator an expression calls is sound. -/
theorem yields_eval_builtins (hext : ev.ExtensionsWellFormed) (hrow : row.WellFormed)
    (e : Expression) (hconstants : ∀ t ∈ e.constants, t.WellFormed)
    (hoperators : ∀ op ∈ e.operators, Registry.builtins.Provides op) :
    Yields Term.WellFormed (ev.eval row e) :=
  yields_eval hext hrow e hconstants fun op hop => sound_builtins.sound_of_provides (hoperators op hop)

end Evaluation

end Evaluator

section Aggregates

/-- A fold that keeps either its accumulator or the next element ends on one of them. -/
theorem foldl_mem_of_select {α : Type} {f : α → α → α} (hf : ∀ m x, f m x = m ∨ f m x = x) :
    ∀ (rest : List α) (a : α), rest.foldl f a ∈ a :: rest
  | [], a => List.mem_singleton_self a
  | x :: rest, a => by
      have hnext : rest.foldl f (f a x) ∈ f a x :: rest := foldl_mem_of_select hf rest (f a x)
      rw [List.foldl_cons]
      rcases List.mem_cons.mp hnext with h | h
      · rcases hf a x with hax | hax <;> rw [h, hax] <;> simp
      · simp [h]

variable {α : Type} {cmp : α → α → Ordering} {l : List α} {m : α}

theorem mem_of_leastBy (h : leastBy cmp l = some m) : m ∈ l := by
  cases l with
  | nil => simp [leastBy] at h
  | cons a rest =>
      simp only [leastBy, Option.some.injEq] at h
      rw [← h]
      exact foldl_mem_of_select (fun m x => by split <;> simp) rest a

theorem mem_of_greatestBy (h : greatestBy cmp l = some m) : m ∈ l := by
  cases l with
  | nil => simp [greatestBy] at h
  | cons a rest =>
      simp only [greatestBy, Option.some.injEq] at h
      rw [← h]
      exact foldl_mem_of_select (fun m x => by split <;> simp) rest a

theorem mem_of_mem_eraseDupsBy_loop (r : α → α → Bool) :
    ∀ (l acc : List α) {x : α}, x ∈ List.eraseDupsBy.loop r l acc → x ∈ l ∨ x ∈ acc
  | [], acc, x, h => by
      simp only [List.eraseDupsBy.loop, List.mem_reverse] at h
      exact Or.inr h
  | a :: l, acc, x, h => by
      rw [List.eraseDupsBy.loop.eq_2] at h
      split at h
      · rcases mem_of_mem_eraseDupsBy_loop r l acc h with h | h
        · exact Or.inl (List.mem_cons_of_mem a h)
        · exact Or.inr h
      · rcases mem_of_mem_eraseDupsBy_loop r l (a :: acc) h with h | h
        · exact Or.inl (List.mem_cons_of_mem a h)
        · rcases List.mem_cons.mp h with rfl | h
          · exact Or.inl List.mem_cons_self
          · exact Or.inr h

/-- Removing repeated wire forms keeps only values of the list. -/
theorem mem_of_mem_distinctTerms {values : List Term} {t : Term} (h : t ∈ distinctTerms values) :
    t ∈ values := by
  rcases mem_of_mem_eraseDupsBy_loop _ values [] h with h | h
  · exact h
  · exact absurd h List.not_mem_nil

/-- A result of an aggregator on well-formed values is well-formed: a count, a sum or an average
is a computed number, `min`, `max` and `sample` give one of the values, and `group_concat` a
string. -/
theorem Aggregator.wellFormed_of_fold {agg : Aggregator} {separator : String}
    {values : List Term} (hvalues : ∀ t ∈ values, t.WellFormed) {t : Term}
    (h : agg.fold separator values = .ok (some t)) : t.WellFormed := by
  cases agg with
  | count =>
      simp only [Aggregator.fold, Outcome.pure_eq_ok, Except.ok.injEq, Option.some.injEq] at h
      exact h ▸ Term.wellFormed_integer _
  | sum =>
      simp only [Aggregator.fold, Outcome.bind_eq_ok_iff, Outcome.pure_eq_ok, Except.ok.injEq,
        Option.some.injEq] at h
      obtain ⟨n, -, rfl⟩ := h
      exact Literal.wellFormed_ofNumeric n
  | avg =>
      simp only [Aggregator.fold] at h
      split at h
      · simp only [Outcome.pure_eq_ok, Except.ok.injEq, Option.some.injEq] at h
        exact h ▸ Term.wellFormed_integer _
      · obtain ⟨total, -, h⟩ := Outcome.bind_eq_ok_iff.mp h
        split at h
        · simp only [Outcome.pure_eq_ok, Except.ok.injEq, Option.some.injEq] at h
          exact h ▸ Literal.wellFormed_ofNumeric _
        · simp at h
  | min =>
      simp only [Aggregator.fold, Outcome.pure_eq_ok, Except.ok.injEq] at h
      exact hvalues t (mem_of_leastBy h)
  | max =>
      simp only [Aggregator.fold, Outcome.pure_eq_ok, Except.ok.injEq] at h
      exact hvalues t (mem_of_greatestBy h)
  | sample =>
      simp only [Aggregator.fold, Outcome.pure_eq_ok, Except.ok.injEq] at h
      exact hvalues t (List.mem_of_mem_head? h)
  | groupConcat =>
      simp only [Aggregator.fold, Outcome.bind_eq_ok_iff, Outcome.pure_eq_ok, Except.ok.injEq,
        Option.some.injEq] at h
      obtain ⟨parts, -, rfl⟩ := h
      exact Term.wellFormed_string _

namespace Evaluator

variable {ev : Evaluator}

/-- The values of an expression over a group are values of its evaluations. -/
theorem yields_groupValues (body : Expression) :
    ∀ rows : List Solution, (∀ row ∈ rows, Yields Term.WellFormed (ev.eval row body)) →
      Yields (fun ts => ∀ t ∈ ts, t.WellFormed) (ev.groupValues body rows)
  | [], _ => by
      rw [groupValues]
      exact Yields.pure fun t ht => absurd ht List.not_mem_nil
  | row :: rows, hrows => by
      have hrest := yields_groupValues body rows fun r hr => hrows r (List.mem_cons_of_mem row hr)
      rw [groupValues]
      refine Yields.bind (Yields.attempt (hrows row List.mem_cons_self)) fun o ho => ?_
      split
      · refine Yields.bind hrest fun ts hts => Yields.pure fun u hu => ?_
        rcases List.mem_cons.mp hu with rfl | hu
        · exact ho _ rfl
        · exact hts u hu
      · split
        · exact hrest
        · exact Yields.throw _

/-- Every result of an aggregate over evaluations with well-formed values is well-formed. -/
theorem yields_aggregate (head : Aggregation) (body : Expression) (rows : List Solution)
    (hrows : ∀ row ∈ rows, Yields Term.WellFormed (ev.eval row body)) :
    Yields (fun o => ∀ t ∈ o, t.WellFormed) (ev.aggregate head body rows) := by
  unfold aggregate
  refine Yields.bind (yields_groupValues body rows hrows) fun values hvalues => ?_
  have hkept : ∀ t ∈ (if head.distinct then distinctTerms values else values), t.WellFormed := by
    split
    · exact fun t ht => hvalues t (mem_of_mem_distinctTerms ht)
    · exact hvalues
  dsimp only
  refine Yields.ofOutcome fun o ho t ht => ?_
  rw [Option.mem_def] at ht
  subst ht
  exact Aggregator.wellFormed_of_fold hkept ho

end Evaluator

end Aggregates

/-- Reading a literal and the constructors of computed literals give well-formed terms, and
evaluation keeps terms well-formed: when the extension functions give well-formed results on
well-formed arguments, every value of an expression over the built-in operators and functions
whose constants are well-formed, under a solution of well-formed values, is well-formed, and so
is every result of an aggregate of such an expression over such solutions. -/
theorem evaluation_wellFormed :
    (∀ lexical datatype language, (Term.parseLiteral lexical datatype language).WellFormed) ∧
    (∀ n, (Literal.integer n).WellFormed) ∧ (∀ d, (Literal.decimal d).WellFormed) ∧
    (∀ x, (Literal.float x).WellFormed) ∧ (∀ x, (Literal.double x).WellFormed) ∧
    (∀ b, (Literal.boolean b).WellFormed) ∧ (∀ s, (Literal.string s).WellFormed) ∧
    (∀ s language, (Literal.langString s language).WellFormed) ∧
    (∀ d, (Literal.dateTime d).WellFormed) ∧
    ∀ ev : Evaluator, ev.ExtensionsWellFormed →
      (∀ (row : Solution) (e : Expression), row.WellFormed →
        (∀ t ∈ e.constants, t.WellFormed) → (∀ op ∈ e.operators, Registry.builtins.Provides op) →
        ∀ s t s', EvalM.exec (ev.evaluate row e) s = (.ok t, s') → t.WellFormed) ∧
      (∀ (head : Aggregation) (body : Expression) (rows : List Solution),
        (∀ row ∈ rows, row.WellFormed) → (∀ t ∈ body.constants, t.WellFormed) →
        (∀ op ∈ body.operators, Registry.builtins.Provides op) →
        ∀ s t s', EvalM.exec (ev.aggregate head body rows) s = (.ok (some t), s') →
          t.WellFormed) := by
  refine ⟨Term.wellFormed_parseLiteral, Literal.wellFormed_integer, Literal.wellFormed_decimal,
    Literal.wellFormed_float, Literal.wellFormed_double, Literal.wellFormed_boolean,
    Literal.wellFormed_string, Literal.wellFormed_langString, Literal.wellFormed_dateTime,
    fun ev hext => ⟨?_, ?_⟩⟩
  · intro row e hrow hconstants hoperators
    exact Evaluator.yields_eval_builtins hext hrow e hconstants hoperators
  · intro head body rows hrows hconstants hoperators s t s' hrun
    have hvalues : ∀ row ∈ rows, Yields Term.WellFormed (ev.eval row body) := fun row hrow =>
      Evaluator.yields_eval_builtins hext (hrows row hrow) body hconstants hoperators
    exact Evaluator.yields_aggregate head body rows hvalues s (some t) s' hrun t rfl

/-- The extension function that gives back its first argument. -/
def firstArgument : Extension := fun args =>
  { result := match args with
      | a :: _ => .ok a
      | [] => .error (.external "no arguments") }

/-- The first argument of a call of `firstArgument`, a variable bound to a number, and the
sample of that variable over the one solution are well-formed. -/
theorem firstArgument_evaluation_wellFormed :
    let ev := ({ now := default } : Evaluator).withExtension "urn:ext:first" firstArgument
    let row := Solution.ofList [("x", Term.integer 1)]
    (∀ s t s', EvalM.exec (ev.evaluate row (.call (.function "urn:ext:first" none)
        [.var "x", .term (Term.string "a")])) s = (.ok t, s') → t.WellFormed) ∧
    (∀ s t s', EvalM.exec (ev.aggregate { aggregator := .sample } (.var "x") [row]) s =
        (.ok (some t), s') → t.WellFormed) := by
  intro ev row
  have hext : ev.ExtensionsWellFormed := by
    intro entry hentry args hargs t ht
    simp only [ev, Evaluator.withExtension, assocInsert, List.any_nil, Bool.false_eq_true,
      if_false, List.nil_append, List.mem_singleton] at hentry
    subst hentry
    cases args with
    | nil => simp [firstArgument] at ht
    | cons a rest =>
        simp only [firstArgument, Except.ok.injEq] at ht
        exact ht ▸ hargs a List.mem_cons_self
  have hrow : row.WellFormed := by
    intro b hb
    simp only [row, Solution.ofList, List.foldl_cons, List.foldl_nil, Solution.insert,
      Solution.empty, List.filter_nil, List.mem_singleton] at hb
    exact hb ▸ Term.wellFormed_integer 1
  have hpart := (evaluation_wellFormed.2.2.2.2.2.2.2.2.2 ev hext)
  refine ⟨hpart.1 row _ hrow ?_ ?_, hpart.2 _ _ [row] ?_ ?_ ?_⟩
  · simp [Expression.constants, Expression.argsConstants, Term.wellFormed_string]
  · simp [Expression.operators, Expression.argsOperators]
  · simpa using hrow
  · simp [Expression.constants]
  · simp [Expression.operators]

end SparqlExpr
