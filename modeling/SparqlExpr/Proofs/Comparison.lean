import SparqlExpr.Builtin.Comparison
import SparqlExpr.Proofs.Contract

/-!
Comparisons on well-formed terms.

Two literals with values of one kind are ordered by value, with three exceptions: numerics
involving NaN, language-tagged strings whose tags differ ignoring ASCII case, and the kinds that
have no order (durations, values of unknown datatypes). Equality falls back on the kind of the
values and then on the wire form, so that among the pairs the `=` table registers only two
literals of unknown datatypes, or two ill-typed literals, that are not the same term have no
answer. The main statements:

* `Relation.sound_compute`: a comparison keeps the contract of built-in computations on a tuple
  where it answers exactly the comparable arguments; the lemmas after it check this for each
  kind of tuple the tables register (numerics, the always ordered kinds, language strings,
  durations, unknown datatypes, ill-typed literals, nodes);
* `sound_comparison`: every comparison operator keeps the contract, refusing exactly the
  incomparable arguments.
-/

namespace SparqlExpr

open Builtin

namespace Term

variable {a b : Term}

theorem equalTerms_of_valueCompare {o : Ordering} (h : valueCompare a b = some o) :
    equalTerms a b = some (o == .eq) := by
  simp [equalTerms, h]

theorem valueCompare_of_not_literal (h : a.isLiteral = false ∨ b.isLiteral = false) :
    valueCompare a b = none := by
  cases a <;> cases b <;> simp_all [valueCompare, isLiteral]

/-- Equality has an answer whenever one side is not a literal. -/
theorem equalTerms_isSome_of_not_literal (h : a.isLiteral = false ∨ b.isLiteral = false) :
    (equalTerms a b).isSome := by
  have hvc := valueCompare_of_not_literal h
  cases a <;> cases b <;> simp_all [equalTerms, isLiteral] <;> split <;> simp

/-- Two numerics always have an answer to equality: unequal when they are not ordered. -/
theorem equalTerms_isSome_of_numeric {la lb : Literal} {x y : Numeric}
    (ha : la.value = .numeric x) (hb : lb.value = .numeric y) :
    (equalTerms (.literal la) (.literal lb)).isSome := by
  cases hvc : valueCompare (.literal la) (.literal lb) with
  | some o => simp [equalTerms_of_valueCompare hvc]
  | none => simp [equalTerms, hvc, ha, hb]

/-- Two strings always have an answer to equality: unequal when their tags differ. -/
theorem equalTerms_isSome_of_string {la lb : Literal} {x y : String}
    (ha : la.value = .string x) (hb : lb.value = .string y) :
    (equalTerms (.literal la) (.literal lb)).isSome := by
  cases hvc : valueCompare (.literal la) (.literal lb) with
  | some o => simp [equalTerms_of_valueCompare hvc]
  | none => simp [equalTerms, hvc, ha, hb]

theorem equalTerms_isSome_of_duration {la lb : Literal} {x y : Temporal.Duration}
    (ha : la.value = .duration x) (hb : lb.value = .duration y) :
    (equalTerms (.literal la) (.literal lb)).isSome := by
  simp [equalTerms, valueCompare, ha, hb]

/-- Two values of unknown datatypes are equal when they are the same term and have no answer
otherwise. -/
theorem equalTerms_of_other {la lb : Literal} {x y : String}
    (ha : la.value = .other x) (hb : lb.value = .other y) :
    equalTerms (.literal la) (.literal lb) =
      if (literal la).wire = (literal lb).wire then some true else none := by
  simp [equalTerms, valueCompare, ha, hb, isLiteral]

theorem equalTerms_illTyped (lexical datatype lexical' datatype' : String) :
    equalTerms (illTyped lexical datatype) (illTyped lexical' datatype') =
      if (illTyped lexical datatype).wire = (illTyped lexical' datatype').wire then some true
      else none := by
  simp [equalTerms, valueCompare, isLiteral]

/-- Two language-tagged strings are ordered by their text when their tags agree ignoring ASCII
case, and not at all otherwise. -/
theorem valueCompare_of_tagged {la lb : Literal} {x y p q : String}
    (ha : la.value = .string x) (hb : lb.value = .string y)
    (hp : la.language = some p) (hq : lb.language = some q) :
    valueCompare (.literal la) (.literal lb) =
      if p.toLower = q.toLower then some (compare x y) else none := by
  simp [valueCompare, ha, hb, hp, hq, asciiEqualIgnoringCase]

end Term

theorem Term.isLiteral_eq_false_of_node {a : Term} (h : a.category ∈ nodeCategories) :
    a.isLiteral = false := by
  cases a <;> simp_all [nodeCategories, category, isLiteral, Literal.category]

/-- The categories of literals whose values of one kind are always ordered. -/
def orderedCategories : List Category := [.string, .boolean, .dateTime, .date, .time]

/-- Two well-formed terms of one category among the always ordered ones have an order. -/
theorem Term.valueCompare_isSome_of_ordered {a b : Term} (ha : a.WellFormed)
    (hb : b.WellFormed) {c : Category} (hc : c ∈ orderedCategories) (hac : a.category = c)
    (hbc : b.category = c) : (valueCompare a b).isSome := by
  simp only [orderedCategories, List.mem_cons, List.not_mem_nil, or_false] at hc
  rcases hc with rfl | rfl | rfl | rfl | rfl
  · obtain ⟨la, x, rfl, hx, hpx⟩ := ha.exists_string hac
    obtain ⟨lb, y, rfl, hy, hpy⟩ := hb.exists_string hbc
    simp [valueCompare, hx, hy, hpx, hpy]
  · obtain ⟨la, x, rfl, hx⟩ := ha.exists_boolean hac
    obtain ⟨lb, y, rfl, hy⟩ := hb.exists_boolean hbc
    simp [valueCompare, hx, hy]
  · obtain ⟨la, x, rfl, hx⟩ := ha.exists_dateTime hac
    obtain ⟨lb, y, rfl, hy⟩ := hb.exists_dateTime hbc
    simp [valueCompare, hx, hy]
  · obtain ⟨la, x, rfl, hx⟩ := ha.exists_date hac
    obtain ⟨lb, y, rfl, hy⟩ := hb.exists_date hbc
    simp [valueCompare, hx, hy]
  · obtain ⟨la, x, rfl, hx⟩ := ha.exists_time hac
    obtain ⟨lb, y, rfl, hy⟩ := hb.exists_time hbc
    simp [valueCompare, hx, hy]

namespace Relation

variable {rel : Relation} {a b : Term}

/-- The computation every comparison operator registers. -/
def compute (rel : Relation) : Computation :=
  binary rel.symbol fun l r => do pure (Term.boolean (← rel.test l r))

theorem symbol_mem_orderNames : rel.symbol ∈ orderNames ↔ rel.isEquality = false := by
  cases rel <;> decide

theorem symbol_mem_equalityNames : rel.symbol ∈ equalityNames ↔ rel.isEquality = true := by
  cases rel <;> decide

/-- The only failure of a comparison is a type mismatch naming the categories. -/
theorem test_eq_error {e : EvalError} (h : rel.test a b = .error e) :
    e = .typeMismatch rel.symbol [a.category, b.category] := by
  unfold test at h
  split at h
  · split at h
    · cases h
    · cases h
      rfl
  · split at h
    · cases h
    · split at h
      · cases h
      · cases h
        rfl

theorem test_isOk_of_equalTerms (heq : rel.isEquality = true) (h : (a.equalTerms b).isSome) :
    ∃ x, rel.test a b = .ok x := by
  obtain ⟨e, he⟩ := Option.isSome_iff_exists.mp h
  exact ⟨e == (rel == .eq), by simp [test, heq, he]⟩

theorem test_isOk_of_valueCompare (h : (a.valueCompare b).isSome) :
    ∃ x, rel.test a b = .ok x := by
  obtain ⟨o, ho⟩ := Option.isSome_iff_exists.mp h
  cases hrel : rel.isEquality
  · exact ⟨rel.holds o, by simp [test, hrel, ho]⟩
  · exact test_isOk_of_equalTerms hrel (by simp [Term.equalTerms_of_valueCompare ho])

/-- A comparison keeps the contract on a tuple of categories where it answers exactly the
comparable arguments. -/
theorem sound_compute {c d : Category}
    (h : ∀ a b, a.WellFormed → b.WellFormed → a.category = c → b.category = d →
      ((∃ x, rel.test a b = .ok x) ↔ ¬IncomparableArguments rel.symbol [a, b])) :
    SoundComputation rel.symbol [c, d] rel.compute where
  incomparable fresh args hwf hkey hinc := by
    obtain ⟨a, b, rfl, ha, hb⟩ := map_category_eq_pair hkey
    have hnot := mt (h a b (hwf a (by simp)) (hwf b (by simp)) ha hb).mp (not_not.mpr hinc)
    cases htest : rel.test a b with
    | ok x => exact absurd ⟨x, htest⟩ hnot
    | error e =>
        rw [test_eq_error htest, ha, hb] at htest
        simp [compute, binary, htest]
  sound fresh args hwf hkey hinc := by
    obtain ⟨a, b, rfl, ha, hb⟩ := map_category_eq_pair hkey
    obtain ⟨x, hx⟩ := (h a b (hwf a (by simp)) (hwf b (by simp)) ha hb).mpr hinc
    simp [compute, binary, hx, Term.wellFormed_boolean]

theorem not_incomparable_of_category {c : Category}
    (hc : c ∉ [.langString, .other, .untyped]) (hac : a.category = c) :
    ¬IncomparableArguments rel.symbol [a, b] := by
  simp only [List.mem_cons, List.not_mem_nil, or_false, not_or] at hc
  simp [IncomparableArguments, hac, hc.1, hc.2.1, hc.2.2]

/-- Numerics are always compared: unordered ones are unequal and unrelated. -/
theorem sound_compute_numeric {c d : Category} (hc : c ∈ Category.numeric)
    (hd : d ∈ Category.numeric) : SoundComputation rel.symbol [c, d] rel.compute :=
  sound_compute fun a b ha hb hac hbd => by
    have hnum : c ∉ [.langString, .other, .untyped] := by
      simp only [Category.numeric, List.mem_cons, List.not_mem_nil, or_false] at hc
      rcases hc with rfl | rfl | rfl | rfl <;> decide
    simp only [not_incomparable_of_category hnum hac, not_false_eq_true, iff_true]
    cases hrel : rel.isEquality
    · cases hvc : a.valueCompare b with
      | some o => exact test_isOk_of_valueCompare (by simp [hvc])
      | none =>
          have hboth : a.category.isNumeric && b.category.isNumeric := by
            simp [Category.isNumeric, hac, hbd, hc, hd]
          exact ⟨false, by simp [test, hrel, hvc, hboth]⟩
    · obtain ⟨x, hx⟩ := ha.exists_numeric (hac ▸ hc)
      obtain ⟨y, hy⟩ := hb.exists_numeric (hbd ▸ hd)
      cases a <;> cases b <;> simp only [Term.numeric?, reduceCtorEq] at hx hy
      rename_i la lb
      cases hva : la.value <;> simp only [Literal.numeric?, hva, reduceCtorEq] at hx
      cases hvb : lb.value <;> simp only [Literal.numeric?, hvb, reduceCtorEq] at hy
      exact test_isOk_of_equalTerms hrel (Term.equalTerms_isSome_of_numeric hva hvb)

/-- Strings, booleans and temporal values of one category are always ordered. -/
theorem sound_compute_ordered {c : Category} (hc : c ∈ orderedCategories) :
    SoundComputation rel.symbol [c, c] rel.compute :=
  sound_compute fun a b ha hb hac hbc => by
    have hnot : c ∉ [.langString, .other, .untyped] := by
      simp only [orderedCategories, List.mem_cons, List.not_mem_nil, or_false] at hc
      rcases hc with rfl | rfl | rfl | rfl | rfl <;> decide
    simp only [not_incomparable_of_category hnot hac, not_false_eq_true, iff_true]
    exact test_isOk_of_valueCompare (Term.valueCompare_isSome_of_ordered ha hb hc hac hbc)

/-- Language-tagged strings are equal or not by text and tag, and ordered only when their tags
agree ignoring ASCII case. -/
theorem sound_compute_langString : SoundComputation rel.symbol [.langString, .langString]
    rel.compute :=
  sound_compute fun a b ha hb hac hbc => by
    obtain ⟨la, x, p, rfl, hx, hp⟩ := ha.exists_langString hac
    obtain ⟨lb, y, q, rfl, hy, hq⟩ := hb.exists_langString hbc
    cases hrel : rel.isEquality
    · have horder : rel.symbol ∈ orderNames := symbol_mem_orderNames.mpr hrel
      have hinc : IncomparableArguments rel.symbol [.literal la, .literal lb] ↔
          p.toLower ≠ q.toLower := by
        simp [IncomparableArguments, horder, hac, hbc, languageOf, hp, hq]
      rw [hinc, not_not]
      have hvc := Term.valueCompare_of_tagged hx hy hp hq
      constructor
      · rintro ⟨v, hv⟩
        by_contra hpq
        rw [if_neg hpq] at hvc
        simp [test, hrel, hvc, Category.isNumeric, Category.numeric, hac] at hv
      · intro hpq
        rw [if_pos hpq] at hvc
        exact test_isOk_of_valueCompare (by simp [hvc])
    · have hne : rel.symbol ∉ orderNames := by
        rw [symbol_mem_orderNames, hrel]
        decide
      simp only [IncomparableArguments, hne, hac, hbc, false_and, reduceCtorEq, and_false,
        or_self, not_false_eq_true, iff_true]
      exact test_isOk_of_equalTerms hrel (Term.equalTerms_isSome_of_string hx hy)

theorem sound_compute_duration (hrel : rel.isEquality = true) :
    SoundComputation rel.symbol [.duration, .duration] rel.compute :=
  sound_compute fun a b ha hb hac hbc => by
    simp only [not_incomparable_of_category (by decide) hac, not_false_eq_true, iff_true]
    obtain ⟨la, x, rfl, hx⟩ := ha.exists_duration hac
    obtain ⟨lb, y, rfl, hy⟩ := hb.exists_duration hbc
    exact test_isOk_of_equalTerms hrel (Term.equalTerms_isSome_of_duration hx hy)

/-- Equality compares two literals of unknown datatypes, or two ill-typed literals, by wire form
alone: it answers exactly when they are the same term. -/
theorem comparable_iff_of_wire (hrel : rel.isEquality = true) {c : Category}
    (hc : c = .other ∨ c = .untyped) (hac : a.category = c) (hbc : b.category = c)
    (heq : a.equalTerms b = if a.wire = b.wire then some true else none) :
    (∃ x, rel.test a b = .ok x) ↔ ¬IncomparableArguments rel.symbol [a, b] := by
  have hname : rel.symbol ∈ equalityNames := symbol_mem_equalityNames.mpr hrel
  have hne : rel.symbol ∉ orderNames := by
    rw [symbol_mem_orderNames, hrel]
    decide
  by_cases hwire : a.wire = b.wire
  · rw [if_pos hwire] at heq
    have hinc : ¬IncomparableArguments rel.symbol [a, b] := by
      simp [IncomparableArguments, hne, hwire]
    simp only [hinc, not_false_eq_true, iff_true]
    exact test_isOk_of_equalTerms hrel (by simp [heq])
  · rw [if_neg hwire] at heq
    simp [test, hrel, heq, IncomparableArguments, hname, hac, hbc, hwire, hc]

/-- Literals of unknown datatypes are equal when they are the same term and have no answer
otherwise. -/
theorem sound_compute_other (hrel : rel.isEquality = true) :
    SoundComputation rel.symbol [.other, .other] rel.compute :=
  sound_compute fun a b ha hb hac hbc => by
    obtain ⟨la, x, rfl, hx⟩ := ha.exists_other hac
    obtain ⟨lb, y, rfl, hy⟩ := hb.exists_other hbc
    exact comparable_iff_of_wire hrel (.inl rfl) hac hbc (Term.equalTerms_of_other hx hy)

/-- Ill-typed literals are equal when they are the same term and have no answer otherwise. -/
theorem sound_compute_untyped (hrel : rel.isEquality = true) :
    SoundComputation rel.symbol [.untyped, .untyped] rel.compute :=
  sound_compute fun a b _ _ hac hbc => by
    obtain ⟨lexical, datatype, rfl⟩ := Term.category_eq_untyped_iff.mp hac
    obtain ⟨lexical', datatype', rfl⟩ := Term.category_eq_untyped_iff.mp hbc
    exact comparable_iff_of_wire hrel (.inr rfl) hac hbc
      (Term.equalTerms_illTyped lexical datatype lexical' datatype')

/-- A node is unequal to anything but itself. -/
theorem sound_compute_node (hrel : rel.isEquality = true) {c d : Category}
    (hcd : c ∈ nodeCategories ∨ d ∈ nodeCategories) :
    SoundComputation rel.symbol [c, d] rel.compute :=
  sound_compute fun a b _ _ hac hbc => by
    have hnode : a.isLiteral = false ∨ b.isLiteral = false := by
      rcases hcd with hc | hd
      · exact Or.inl (Term.isLiteral_eq_false_of_node (hac ▸ hc))
      · exact Or.inr (Term.isLiteral_eq_false_of_node (hbc ▸ hd))
    have hnot : ¬IncomparableArguments rel.symbol [a, b] := by
      have hne : rel.symbol ∉ orderNames := by
        rw [symbol_mem_orderNames, hrel]
        decide
      rcases hcd with hc | hd
      · simp only [nodeCategories, List.mem_cons, List.not_mem_nil, or_false] at hc
        rcases hc with rfl | rfl <;> simp [IncomparableArguments, hne, hac]
      · simp only [nodeCategories, List.mem_cons, List.not_mem_nil, or_false] at hd
        rcases hd with rfl | rfl <;> simp [IncomparableArguments, hne, hbc]
    simp only [hnot, not_false_eq_true, iff_true]
    exact test_isOk_of_equalTerms hrel (Term.equalTerms_isSome_of_not_literal hnode)

end Relation

/-- Every comparison operator keeps the contract of built-in computations. -/
theorem sound_comparison (rel : Relation) : (comparison rel).Sound := by
  have hnumeric : ∀ key ∈ categoryTuples [Category.numeric, Category.numeric],
      SoundComputation rel.symbol key rel.compute := by
    intro key hkey
    obtain ⟨c, d, rfl, hc, hd⟩ := mem_categoryTuples_pair.mp hkey
    exact Relation.sound_compute_numeric hc hd
  have hsame : ∀ c ∈ [Category.string, .langString, .boolean, .dateTime, .date, .time],
      SoundComputation rel.symbol [c, c] rel.compute := by
    intro c hc
    simp only [List.mem_cons, List.not_mem_nil, or_false] at hc
    rcases hc with rfl | rfl | rfl | rfl | rfl | rfl
    · exact Relation.sound_compute_ordered (by decide)
    · exact Relation.sound_compute_langString
    all_goals exact Relation.sound_compute_ordered (by decide)
  have hordered := ((OverloadBuilder.Sound.new rel.symbol 2).onEach hnumeric).foldl_on _
    (fun c => [c, c]) rel.compute hsame
  unfold comparison
  split
  · rename_i hrel
    have hunordered : ∀ c ∈ [Category.duration, .other, .untyped],
        SoundComputation rel.symbol [c, c] rel.compute := by
      intro c hc
      simp only [List.mem_cons, List.not_mem_nil, or_false] at hc
      rcases hc with rfl | rfl | rfl
      · exact Relation.sound_compute_duration hrel
      · exact Relation.sound_compute_other hrel
      · exact Relation.sound_compute_untyped hrel
    have hnodes : ∀ first second, (first = nodeCategories ∨ second = nodeCategories) →
        ∀ key ∈ categoryTuples [first, second], SoundComputation rel.symbol key rel.compute := by
      intro first second hnode key hkey
      obtain ⟨c, d, rfl, hc, hd⟩ := mem_categoryTuples_pair.mp hkey
      rcases hnode with rfl | rfl
      · exact Relation.sound_compute_node hrel (Or.inl hc)
      · exact Relation.sound_compute_node hrel (Or.inr hd)
    exact (((hordered.foldl_on _ (fun c => [c, c]) rel.compute hunordered).onEach
      (hnodes _ _ (Or.inl rfl))).onEach (hnodes _ _ (Or.inl rfl))).onEach
      (hnodes _ _ (Or.inr rfl))
  · exact hordered

end SparqlExpr
