import SparqlExpr.Proofs.Membership

/-!
MIN and MAX over the values of a group. `leastBy` keeps its running value unless the next one is
strictly smaller and `greatestBy` replaces it unless the next one is strictly smaller, so both
are folds that keep, of the running value and the next one, one related to both. When the
comparison is a total preorder on the values, such a fold returns a least (greatest) value, and
any order of the values gives a result equivalent to it under the comparison.

Term order is no total preorder in general. Language strings whose tags match ignoring ASCII
case are compared by value, and other pairs by their display text, where upper-case tags sort
before lower-case ones: `"A"@en` and `"A"@EN` are equal, while `"A"@de` is above `"A"@EN` and
below `"A"@en`. The main statements:

* `foldl_pick_best`: a fold that keeps one of the running value and the next one, related to
  both, ends related to every element, for a relation reflexive and transitive on them;
* `leastBy_least`, `greatestBy_greatest`, `leastBy_perm` and `greatestBy_perm`: extrema under a
  total preorder, independent of the order of the values up to the preorder;
* `extremum_aggregates`: the MIN and MAX aggregates of a group on whose values term order is a
  total preorder;
* `min_depends_on_order`: three language strings on which it is not, and MIN returns a value
  above another of the group, and another value once the rows are reordered.
-/

namespace SparqlExpr

/-- `cmp` is a total preorder on the members of `values`: swapping the arguments swaps the
answer, and "not greater" is transitive. -/
structure TotalPreorderOn {α : Type} (cmp : α → α → Ordering) (values : List α) : Prop where
  swap : ∀ a ∈ values, ∀ b ∈ values, (cmp a b).swap = cmp b a
  trans : ∀ a ∈ values, ∀ b ∈ values, ∀ c ∈ values,
    cmp a b ≠ .gt → cmp b c ≠ .gt → cmp a c ≠ .gt

instance {α : Type} (cmp : α → α → Ordering) (values : List α) :
    Decidable (TotalPreorderOn cmp values) :=
  decidable_of_iff
    ((∀ a ∈ values, ∀ b ∈ values, (cmp a b).swap = cmp b a) ∧
      ∀ a ∈ values, ∀ b ∈ values, ∀ c ∈ values, cmp a b ≠ .gt → cmp b c ≠ .gt → cmp a c ≠ .gt)
    ⟨fun ⟨hswap, htrans⟩ => ⟨hswap, htrans⟩, fun ⟨hswap, htrans⟩ => ⟨hswap, htrans⟩⟩

section Extrema

variable {α : Type} {cmp : α → α → Ordering} {values : List α} {a b : α}

namespace TotalPreorderOn

theorem cmp_self (h : TotalPreorderOn cmp values) (ha : a ∈ values) : cmp a a = .eq := by
  have hswap := h.swap a ha a ha
  revert hswap
  cases cmp a a <;> decide

theorem ne_lt_iff (h : TotalPreorderOn cmp values) (ha : a ∈ values) (hb : b ∈ values) :
    cmp a b ≠ .lt ↔ cmp b a ≠ .gt := by
  rw [← h.swap a ha b hb]
  cases cmp a b <;> decide

/-- Two values neither of which is greater than the other are equivalent. -/
theorem eq_of_ne_gt (h : TotalPreorderOn cmp values) (ha : a ∈ values) (hb : b ∈ values)
    (hab : cmp a b ≠ .gt) (hba : cmp b a ≠ .gt) : cmp a b = .eq := by
  rw [← h.swap a ha b hb] at hba
  cases hc : cmp a b with
  | lt => rw [hc] at hba; exact absurd rfl hba
  | eq => rfl
  | gt => exact absurd hc hab

theorem subset (h : TotalPreorderOn cmp values) {values' : List α}
    (hsub : ∀ x ∈ values', x ∈ values) : TotalPreorderOn cmp values' where
  swap a ha b hb := h.swap a (hsub a ha) b (hsub b hb)
  trans a ha b hb c hc := h.trans a (hsub a ha) b (hsub b hb) c (hsub c hc)

end TotalPreorderOn

/-- A fold that keeps, of the running value and the next element, one of the two related to
both ends at one of its start and the elements, related to each of them, when the relation is
reflexive and transitive on the values they come from. -/
theorem foldl_pick_best (R : α → α → Prop) (pick : α → α → α)
    (hrefl : ∀ a ∈ values, R a a)
    (htrans : ∀ a ∈ values, ∀ b ∈ values, ∀ c ∈ values, R a b → R b c → R a c)
    (hpick : ∀ m ∈ values, ∀ x ∈ values,
      (pick m x = m ∨ pick m x = x) ∧ R (pick m x) m ∧ R (pick m x) x) :
    ∀ (xs : List α) (m : α), m ∈ values → (∀ x ∈ xs, x ∈ values) →
      xs.foldl pick m ∈ m :: xs ∧ ∀ y ∈ m :: xs, R (xs.foldl pick m) y
  | [], m, hm, _ => ⟨List.mem_singleton_self m, by simpa using hrefl m hm⟩
  | x :: rest, m, hm, hxs => by
      have hx : x ∈ values := hxs x List.mem_cons_self
      have hrest : ∀ y ∈ rest, y ∈ values := fun y hy => hxs y (List.mem_cons_of_mem x hy)
      obtain ⟨hchoice, hpm, hpx⟩ := hpick m hm x hx
      have hp : pick m x ∈ values := by
        rcases hchoice with h | h <;> rw [h] <;> assumption
      -- the fold goes on from the pick, to which the result is related
      obtain ⟨hmem, hall⟩ := foldl_pick_best R pick hrefl htrans hpick rest (pick m x) hp hrest
      rw [List.foldl_cons]
      have hr : rest.foldl pick (pick m x) ∈ values := by
        rcases List.mem_cons.mp hmem with h | h
        · rw [h]; exact hp
        · exact hrest _ h
      have hrp : R (rest.foldl pick (pick m x)) (pick m x) := hall _ List.mem_cons_self
      refine ⟨?_, fun y hy => ?_⟩
      · rcases List.mem_cons.mp hmem with h | h
        · rw [h]
          rcases hchoice with h' | h'
          · rw [h']; exact List.mem_cons_self
          · rw [h']; exact List.mem_cons_of_mem m List.mem_cons_self
        · exact List.mem_cons_of_mem m (List.mem_cons_of_mem x h)
      · rcases List.mem_cons.mp hy with rfl | hy
        · exact htrans _ hr _ hp _ hm hrp hpm
        · rcases List.mem_cons.mp hy with rfl | hy
          · exact htrans _ hr _ hp _ hx hrp hpx
          · exact hall y (List.mem_cons_of_mem _ hy)

/-- Under a total preorder, `leastBy` returns a value of the list that is greater than none. -/
theorem leastBy_least (h : TotalPreorderOn cmp values) (hne : values ≠ []) :
    ∃ m, leastBy cmp values = some m ∧ m ∈ values ∧ ∀ v ∈ values, cmp m v ≠ .gt := by
  obtain ⟨first, rest, rfl⟩ := List.exists_cons_of_ne_nil hne
  -- the running minimum is replaced only by a strictly smaller value
  have hpick : ∀ m ∈ first :: rest, ∀ x ∈ first :: rest,
      ((if cmp m x == .gt then x else m) = m ∨ (if cmp m x == .gt then x else m) = x) ∧
        cmp (if cmp m x == .gt then x else m) m ≠ .gt ∧
        cmp (if cmp m x == .gt then x else m) x ≠ .gt := by
    intro m hm x hx
    by_cases hgt : cmp m x = .gt
    · have hxm : cmp x m = .lt := by rw [← h.swap m hm x hx, hgt]; rfl
      simp [hgt, hxm, h.cmp_self hx]
    · simp [hgt, h.cmp_self hm]
  obtain ⟨hmem, hall⟩ := foldl_pick_best (fun a b => cmp a b ≠ .gt) _
    (fun a ha => by rw [h.cmp_self ha]; decide) h.trans hpick rest first List.mem_cons_self
    fun x hx => List.mem_cons_of_mem first hx
  exact ⟨_, rfl, hmem, hall⟩

/-- Under a total preorder, `greatestBy` returns a value of the list that is less than none. -/
theorem greatestBy_greatest (h : TotalPreorderOn cmp values) (hne : values ≠ []) :
    ∃ m, greatestBy cmp values = some m ∧ m ∈ values ∧ ∀ v ∈ values, cmp m v ≠ .lt := by
  obtain ⟨first, rest, rfl⟩ := List.exists_cons_of_ne_nil hne
  -- "not less" is transitive because "not greater" is, read the other way round
  have htrans : ∀ a ∈ first :: rest, ∀ b ∈ first :: rest, ∀ c ∈ first :: rest,
      cmp a b ≠ .lt → cmp b c ≠ .lt → cmp a c ≠ .lt := by
    intro a ha b hb c hc hab hbc
    rw [h.ne_lt_iff ha hb] at hab
    rw [h.ne_lt_iff hb hc] at hbc
    rw [h.ne_lt_iff ha hc]
    exact h.trans c hc b hb a ha hbc hab
  -- the running maximum is kept only when it is strictly greater
  have hpick : ∀ m ∈ first :: rest, ∀ x ∈ first :: rest,
      ((if cmp m x == .gt then m else x) = m ∨ (if cmp m x == .gt then m else x) = x) ∧
        cmp (if cmp m x == .gt then m else x) m ≠ .lt ∧
        cmp (if cmp m x == .gt then m else x) x ≠ .lt := by
    intro m hm x hx
    by_cases hgt : cmp m x = .gt
    · simp [hgt, h.cmp_self hm]
    · have hxm : cmp x m ≠ .lt := (h.ne_lt_iff hx hm).mpr hgt
      simp [hgt, hxm, h.cmp_self hx]
  obtain ⟨hmem, hall⟩ := foldl_pick_best (fun a b => cmp a b ≠ .lt) _
    (fun a ha => by rw [h.cmp_self ha]; decide) htrans hpick rest first List.mem_cons_self
    fun x hx => List.mem_cons_of_mem first hx
  exact ⟨_, rfl, hmem, hall⟩

theorem ne_nil_of_leastBy {m : α} (hm : leastBy cmp values = some m) : values ≠ [] := by
  rintro rfl
  simp [leastBy] at hm

theorem ne_nil_of_greatestBy {m : α} (hm : greatestBy cmp values = some m) : values ≠ [] := by
  rintro rfl
  simp [greatestBy] at hm

/-- Under a total preorder, what `leastBy` returns is a value greater than none. -/
theorem least_of_leastBy (h : TotalPreorderOn cmp values) {m : α}
    (hm : leastBy cmp values = some m) : m ∈ values ∧ ∀ v ∈ values, cmp m v ≠ .gt := by
  obtain ⟨n, hn, hmem, hall⟩ := leastBy_least h (ne_nil_of_leastBy hm)
  rw [hm, Option.some.injEq] at hn
  exact hn ▸ ⟨hmem, hall⟩

/-- Under a total preorder, what `greatestBy` returns is a value less than none. -/
theorem greatest_of_greatestBy (h : TotalPreorderOn cmp values) {m : α}
    (hm : greatestBy cmp values = some m) : m ∈ values ∧ ∀ v ∈ values, cmp m v ≠ .lt := by
  obtain ⟨n, hn, hmem, hall⟩ := greatestBy_greatest h (ne_nil_of_greatestBy hm)
  rw [hm, Option.some.injEq] at hn
  exact hn ▸ ⟨hmem, hall⟩

/-- Under a total preorder, the minima of two orders of the same values are equivalent. -/
theorem leastBy_perm (h : TotalPreorderOn cmp values) {values' : List α}
    (hperm : values.Perm values') {m m' : α} (hm : leastBy cmp values = some m)
    (hm' : leastBy cmp values' = some m') : cmp m m' = .eq := by
  have h' : TotalPreorderOn cmp values' := h.subset fun x hx => hperm.mem_iff.mpr hx
  obtain ⟨hmem, hall⟩ := least_of_leastBy h hm
  obtain ⟨hmem', hall'⟩ := least_of_leastBy h' hm'
  -- each minimum is a value of the other order, so neither is greater than the other
  have hm'mem : m' ∈ values := hperm.mem_iff.mpr hmem'
  exact h.eq_of_ne_gt hmem hm'mem (hall m' hm'mem) (hall' m (hperm.mem_iff.mp hmem))

/-- Under a total preorder, the maxima of two orders of the same values are equivalent. -/
theorem greatestBy_perm (h : TotalPreorderOn cmp values) {values' : List α}
    (hperm : values.Perm values') {m m' : α} (hm : greatestBy cmp values = some m)
    (hm' : greatestBy cmp values' = some m') : cmp m m' = .eq := by
  have h' : TotalPreorderOn cmp values' := h.subset fun x hx => hperm.mem_iff.mpr hx
  obtain ⟨hmem, hall⟩ := greatest_of_greatestBy h hm
  obtain ⟨hmem', hall'⟩ := greatest_of_greatestBy h' hm'
  have hm'mem : m' ∈ values := hperm.mem_iff.mpr hmem'
  -- neither maximum is less than the other, so neither is greater either
  have hlt : cmp m m' ≠ .lt := hall m' hm'mem
  have hlt' : cmp m' m ≠ .lt := hall' m (hperm.mem_iff.mp hmem)
  exact h.eq_of_ne_gt hmem hm'mem ((h.ne_lt_iff hm'mem hmem).mp hlt')
    ((h.ne_lt_iff hmem hm'mem).mp hlt)

end Extrema

/-- The values an aggregation folds: the group's values, with only the first of each wire form
kept under DISTINCT. -/
def Aggregation.folded (head : Aggregation) (values : List Term) : List Term :=
  if head.distinct then distinctTerms values else values

namespace Evaluator

open EvalM

variable {ev : Evaluator}

/-- An aggregate whose group gave values folds them, from the state the group left. -/
theorem exec_aggregate_of_groupValues {head : Aggregation} {body : Expression}
    {rows : List Solution} {s s₁ : EvalState} {values : List Term}
    (h : exec (ev.groupValues body rows) s = (.ok values, s₁)) :
    exec (ev.aggregate head body rows) s =
      (head.aggregator.fold (head.separator.getD ev.config.groupConcatSeparator)
        (head.folded values), s₁) := by
  rw [exec_aggregate, h]
  rfl

/-- Before cancellation, the values of a variable over solutions that all bind it are their
values in order, and the state is left as it was. -/
theorem exec_groupValues_var (name : String) {s : EvalState} (hs : s.cancelled = false) :
    ∀ (rows : List Solution), (∀ r ∈ rows, (r.lookup? name).isSome) →
      exec (ev.groupValues (.var name) rows) s = (.ok (rows.filterMap (·.lookup? name)), s)
  | [], _ => rfl
  | r :: rows, hbound => by
      obtain ⟨t, ht⟩ := Option.isSome_iff_exists.mp (hbound r List.mem_cons_self)
      rw [exec_groupValues_cons, steady_of_lookup ht s hs]
      dsimp only
      rw [exec_groupValues_var name hs rows fun r' hr' => hbound r' (List.mem_cons_of_mem r hr'),
        List.filterMap_cons, ht]

end Evaluator

open EvalM

/-- Two language strings are ordered by their texts when their tags match ignoring ASCII case,
and by their display texts otherwise. -/
theorem Term.termOrder_langString (x y p q : String) :
    Term.termOrder (.literal (Literal.langString x p)) (.literal (Literal.langString y q)) =
      if asciiEqualIgnoringCase p q then compare x y
      else compare (Term.literal (Literal.langString x p)).display
        (Term.literal (Literal.langString y q)).display := by
  unfold Term.termOrder Term.valueCompare
  cases h : asciiEqualIgnoringCase p q <;> simp [h, Literal.langString, Term.kindRank, Term.category]

/-- MIN and MAX of a group on whose folded values term order is a total preorder: the aggregate
returns one of these values, greater (for MIN) or less (for MAX) than none of them, from the
state the group left; and any other order of the same values gives an equivalent extremum. -/
theorem extremum_aggregates (ev : Evaluator) (head : Aggregation) (body : Expression)
    (rows : List Solution) (s s₁ : EvalState) (values : List Term)
    (hgroup : exec (ev.groupValues body rows) s = (.ok values, s₁))
    (hne : head.folded values ≠ []) (hpre : TotalPreorderOn Term.termOrder (head.folded values)) :
    (head.aggregator = .min → ∃ m, exec (ev.aggregate head body rows) s = (.ok (some m), s₁) ∧
      m ∈ head.folded values ∧ (∀ v ∈ head.folded values, Term.termOrder m v ≠ .gt) ∧
      ∀ (separator : String) (values' : List Term) (m' : Term),
        (head.folded values).Perm values' → Aggregator.min.fold separator values' = .ok (some m') →
        Term.termOrder m m' = .eq) ∧
    (head.aggregator = .max → ∃ m, exec (ev.aggregate head body rows) s = (.ok (some m), s₁) ∧
      m ∈ head.folded values ∧ (∀ v ∈ head.folded values, Term.termOrder m v ≠ .lt) ∧
      ∀ (separator : String) (values' : List Term) (m' : Term),
        (head.folded values).Perm values' → Aggregator.max.fold separator values' = .ok (some m') →
        Term.termOrder m m' = .eq) := by
  refine ⟨fun hmin => ?_, fun hmax => ?_⟩
  · obtain ⟨m, hm, hmem, hall⟩ := leastBy_least hpre hne
    refine ⟨m, ?_, hmem, hall, fun separator values' m' hperm hm' => ?_⟩
    · rw [Evaluator.exec_aggregate_of_groupValues hgroup, hmin, Aggregator.fold, hm]
      rfl
    · simp only [Aggregator.fold, Outcome.pure_eq_ok, Except.ok.injEq] at hm'
      exact leastBy_perm hpre hperm hm hm'
  · obtain ⟨m, hm, hmem, hall⟩ := greatestBy_greatest hpre hne
    refine ⟨m, ?_, hmem, hall, fun separator values' m' hperm hm' => ?_⟩
    · rw [Evaluator.exec_aggregate_of_groupValues hgroup, hmax, Aggregator.fold, hm]
      rfl
    · simp only [Aggregator.fold, Outcome.pure_eq_ok, Except.ok.injEq] at hm'
      exact greatestBy_perm hpre hperm hm hm'

/-- The integers 3, 1 and 2 bound to `x`: MIN over them is a value of the group, greater than
none of them, and equivalent to the MIN of any other order of them. -/
theorem min_of_integers :
    exec (({ now := default } : Evaluator).groupValues (.var "x")
        ([3, 1, 2].map fun n => ({ bindings := [("x", Term.integer n)] } : Solution))) {} =
      (.ok [Term.integer 3, Term.integer 1, Term.integer 2], {}) ∧
    ({ aggregator := .min } : Aggregation).folded [Term.integer 3, Term.integer 1, Term.integer 2]
      ≠ [] ∧
    TotalPreorderOn Term.termOrder (({ aggregator := .min } : Aggregation).folded
      [Term.integer 3, Term.integer 1, Term.integer 2]) ∧
    ∃ m, exec (({ now := default } : Evaluator).aggregate { aggregator := .min } (.var "x")
        ([3, 1, 2].map fun n => ({ bindings := [("x", Term.integer n)] } : Solution))) {} =
        (.ok (some m), {}) ∧
      m ∈ ({ aggregator := .min } : Aggregation).folded
        [Term.integer 3, Term.integer 1, Term.integer 2] ∧
      (∀ v ∈ ({ aggregator := .min } : Aggregation).folded
        [Term.integer 3, Term.integer 1, Term.integer 2], Term.termOrder m v ≠ .gt) ∧
      ∀ (separator : String) (values' : List Term) (m' : Term),
        (({ aggregator := .min } : Aggregation).folded
          [Term.integer 3, Term.integer 1, Term.integer 2]).Perm values' →
        Aggregator.min.fold separator values' = .ok (some m') → Term.termOrder m m' = .eq := by
  have hgroup : exec (({ now := default } : Evaluator).groupValues (.var "x")
      ([3, 1, 2].map fun n => ({ bindings := [("x", Term.integer n)] } : Solution))) {} =
      (.ok [Term.integer 3, Term.integer 1, Term.integer 2], {}) := by
    rw [Evaluator.exec_groupValues_var "x" rfl _ (by simp [Solution.lookup?])]
    simp [Solution.lookup?]
  have hne : ({ aggregator := .min } : Aggregation).folded
      [Term.integer 3, Term.integer 1, Term.integer 2] ≠ [] := by
    simp [Aggregation.folded]
  have hpre : TotalPreorderOn Term.termOrder (({ aggregator := .min } : Aggregation).folded
      [Term.integer 3, Term.integer 1, Term.integer 2]) := by
    decide +kernel
  exact ⟨hgroup, hne, hpre, (extremum_aggregates _ _ _ _ _ _ _ hgroup hne hpre).1 rfl⟩

/-- MIN over `"A"@en`, `"A"@EN` and `"A"@de` bound to `x` in that order is `"A"@de`, which is
above `"A"@EN`; once the first two rows are swapped it is `"A"@EN`. Term order is no total
preorder on these values: `"A"@en` and `"A"@EN` are equal, and `"A"@de` lies between them. -/
theorem min_depends_on_order :
    Term.termOrder (.literal (Literal.langString "A" "de"))
        (.literal (Literal.langString "A" "EN")) = .gt ∧
    exec (({ now := default } : Evaluator).aggregate { aggregator := .min } (.var "x")
        (["en", "EN", "de"].map fun tag =>
          ({ bindings := [("x", .literal (Literal.langString "A" tag))] } : Solution))) {} =
      (.ok (some (.literal (Literal.langString "A" "de"))), {}) ∧
    exec (({ now := default } : Evaluator).aggregate { aggregator := .min } (.var "x")
        (["EN", "en", "de"].map fun tag =>
          ({ bindings := [("x", .literal (Literal.langString "A" tag))] } : Solution))) {} =
      (.ok (some (.literal (Literal.langString "A" "EN"))), {}) := by
  -- the kernel compares two computed texts slowly, so each tag is lowered on its own
  have hlower : "EN".toLower = "en" := by decide +kernel
  have hlower' : "en".toLower = "en" := by decide +kernel
  have hen : asciiEqualIgnoringCase "en" "EN" = true := by
    rw [asciiEqualIgnoringCase, hlower, hlower']
    exact beq_self_eq_true "en"
  have hEN : asciiEqualIgnoringCase "EN" "en" = true := by
    rw [asciiEqualIgnoringCase, hlower, hlower']
    exact beq_self_eq_true "en"
  have hende : Term.termOrder (.literal (Literal.langString "A" "en"))
      (.literal (Literal.langString "A" "de")) = .gt := by decide +kernel
  have hENde : Term.termOrder (.literal (Literal.langString "A" "EN"))
      (.literal (Literal.langString "A" "de")) = .lt := by decide +kernel
  refine ⟨by decide +kernel, ?_, ?_⟩
  all_goals
    rw [Evaluator.exec_aggregate_of_groupValues
      (Evaluator.exec_groupValues_var "x" rfl _ (by simp [Solution.lookup?]))]
    simp [Solution.lookup?, Aggregation.folded, Aggregator.fold, leastBy, hende, hENde,
      Term.termOrder_langString, hen, hEN]

end SparqlExpr
