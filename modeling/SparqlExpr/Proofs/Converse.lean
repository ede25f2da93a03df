import Mathlib
import SparqlExpr.Proofs.Membership
import SparqlExpr.Proofs.Extremum

/-!
Exchanging the arguments of comparisons.

Every order that comparisons read answers the other way round when its arguments are exchanged:
IEEE order of bit patterns (NaN unordered, the two zeros equal), exact decimals, numerics after
promotion (`Numeric.promote_swap`: promotion does not depend on the order of its operands),
instants, times of day, and so the value order of terms (`Term.valueCompare_swap`); term
equality does not depend on the order of its arguments (`Term.equalTerms_comm`).

A comparison's table registers a pair of categories exactly when it registers the pair
exchanged (`Relation.signatures_swap`), so each relation tests two terms as its converse tests
them exchanged (`Relation.tableTest_converse`). The main statements:

* `comparison_converse_laws`: `=` and `!=` are symmetric, `!=` is the negation of `=`, `<` and
  `<=` are `>` and `>=` exchanged, and every failure is a type mismatch;
* `Term.termOrder_swap`: the order of MIN and MAX is antisymmetric, while
  `termOrder_not_transitive` shows three language strings on which it is not transitive.
-/

namespace SparqlExpr

open Builtin

section Swap

theorem BinaryFormat.compareBits?_swap (f : BinaryFormat) (a b : Nat) :
    f.compareBits? b a = (f.compareBits? a b).map Ordering.swap := by
  unfold BinaryFormat.compareBits?
  cases f.decode a with
  | nan => cases f.decode b <;> rfl
  | infinite na =>
      cases f.decode b with
      | nan => rfl
      | infinite nb => simp [Std.OrientedOrd.eq_swap (a := na)]
      | finite nb mb qb => cases na <;> rfl
  | finite na ma qa =>
      cases f.decode b with
      | nan => rfl
      | infinite nb => cases nb <;> rfl
      | finite nb mb qb =>
          simp [min_comm qb qa, Std.OrientedOrd.eq_swap (a := BinaryFormat.scaledValue nb mb qb _)]

theorem Float.partialCompare_swap (a b : Float) :
    Float.partialCompare b a = (Float.partialCompare a b).map Ordering.swap :=
  BinaryFormat.compareBits?_swap _ _ _

theorem Float32.partialCompare_swap (a b : Float32) :
    Float32.partialCompare b a = (Float32.partialCompare a b).map Ordering.swap :=
  BinaryFormat.compareBits?_swap _ _ _

theorem Decimal.compare_swap (a b : Decimal) : b.compare a = (a.compare b).swap := by
  simp only [Decimal.compare, max_comm b.scale a.scale]
  exact Std.OrientedOrd.eq_swap

/-- Two operands brought to a common type, in the other order. -/
def Promoted.swap : Promoted → Promoted
  | integers a b => integers b a
  | decimals a b => decimals b a
  | floats a b => floats b a
  | doubles a b => doubles b a

theorem Numeric.promote_swap (l r : Numeric) :
    Numeric.promote r l = (Numeric.promote l r).map Promoted.swap := by
  cases l <;> cases r <;> rfl

theorem Numeric.compare?_swap (l r : Numeric) :
    r.compare? l = (l.compare? r).map Ordering.swap := by
  unfold Numeric.compare?
  rw [Numeric.promote_swap]
  rcases Numeric.promote l r with _ | ⟨a, b⟩ | ⟨a, b⟩ | ⟨a, b⟩ | ⟨a, b⟩
  · rfl
  · exact congrArg some Std.OrientedOrd.eq_swap
  · exact congrArg some (Decimal.compare_swap a b)
  · exact Float32.partialCompare_swap a b
  · exact Float.partialCompare_swap a b

theorem Temporal.Instant.compare_swap (a b : Temporal.Instant) :
    b.compare a = (a.compare b).swap := by
  simp only [Temporal.Instant.compare, Ordering.swap_then]
  rw [Std.OrientedOrd.eq_swap (a := b.seconds), Std.OrientedOrd.eq_swap (a := b.nano)]

theorem Temporal.ClockTime.compare_swap (a b : Temporal.ClockTime) :
    b.compare a = (a.compare b).swap := by
  simp only [Temporal.ClockTime.compare, Ordering.swap_then]
  rw [Std.OrientedOrd.eq_swap (a := b.secondOfDay), Std.OrientedOrd.eq_swap (a := b.nano)]

theorem asciiEqualIgnoringCase_comm (a b : String) :
    asciiEqualIgnoringCase b a = asciiEqualIgnoringCase a b := by
  simp [asciiEqualIgnoringCase, eq_comm]

theorem Term.valueCompare_swap (l r : Term) :
    r.valueCompare l = (l.valueCompare r).map Ordering.swap := by
  cases l with
  | literal a =>
      cases r with
      | literal b =>
          rcases a with ⟨va, _, _, p⟩
          rcases b with ⟨vb, _, _, q⟩
          cases va <;> cases vb
          case numeric.numeric x y => exact Numeric.compare?_swap x y
          case boolean.boolean x y => exact congrArg some Std.OrientedOrd.eq_swap
          case dateTime.dateTime x y => exact congrArg some (Temporal.Instant.compare_swap _ _)
          case date.date x y => exact congrArg some Std.OrientedOrd.eq_swap
          case time.time x y => exact congrArg some (Temporal.ClockTime.compare_swap _ _)
          case string.string x y =>
            cases p <;> cases q
            case none.none => exact congrArg some Std.OrientedOrd.eq_swap
            case some.some p q =>
              simp only [valueCompare, asciiEqualIgnoringCase_comm q p]
              split <;> simp [Std.OrientedOrd.eq_swap (a := y)]
            all_goals rfl
          all_goals rfl
      | _ => rfl
  | _ => cases r <;> rfl

theorem Temporal.Duration.sameValue_comm (a b : Temporal.Duration) :
    b.sameValue a = a.sameValue b := by
  unfold Temporal.Duration.sameValue
  rw [BinaryFormat.compareBits?_swap]
  cases BinaryFormat.binary64.compareBits? a.seconds.toBits.toNat b.seconds.toBits.toNat with
  | none => simp
  | some o => cases o <;> simp [eq_comm]

theorem Term.equalTerms_comm (a b : Term) : b.equalTerms a = a.equalTerms b := by
  unfold equalTerms
  rw [valueCompare_swap a b]
  cases h : a.valueCompare b with
  | some o => cases o <;> rfl
  | none =>
      -- the fallbacks: by kind of value, then by wire form
      have hwire : (b.wire == a.wire) = (a.wire == b.wire) := by simp [eq_comm]
      simp only [Option.map_none]
      rw [hwire, Bool.and_comm b.isLiteral]
      cases a with
      | literal x =>
          cases b with
          | literal y =>
              rcases x with ⟨vx, _, _, _⟩
              rcases y with ⟨vy, _, _, _⟩
              cases vx <;> cases vy
              case duration.duration x y => simp only [Temporal.Duration.sameValue_comm]
              all_goals rfl
          | _ => rfl
      | _ => cases b <;> rfl

end Swap

namespace Relation

/-- The relation with its arguments exchanged: `>` for `<`, `>=` for `<=`, and `=` and `!=` for
themselves. -/
def converse : Relation → Relation
  | eq => eq
  | ne => ne
  | lt => gt
  | le => ge
  | gt => lt
  | ge => le

theorem holds_converse (rel : Relation) (o : Ordering) :
    rel.converse.holds o.swap = rel.holds o := by
  cases rel <;> cases o <;> rfl

theorem isEquality_converse (rel : Relation) : rel.converse.isEquality = rel.isEquality := by
  cases rel <;> rfl

theorem converse_of_isEquality {rel : Relation} (h : rel.isEquality = true) :
    rel.converse = rel := by
  cases rel <;> simp_all [isEquality, converse]

/-- A relation tests its arguments as its converse tests them exchanged: the same boolean, or
type mismatches both. -/
theorem test_converse (rel : Relation) (a b : Term) :
    (rel.converse.test b a).SameKind (rel.test a b) := by
  unfold test
  rw [isEquality_converse]
  cases heq : rel.isEquality with
  | false =>
      -- an order relation: the values compared the other way round
      simp only [Bool.false_eq_true, if_false]
      rw [Term.valueCompare_swap a b, Bool.and_comm]
      cases a.valueCompare b with
      | some o =>
          simp only [Option.map_some]
          exact holds_converse rel o
      | none =>
          simp only [Option.map_none]
          split <;> rfl
  | true =>
      simp only [if_true]
      rw [Term.equalTerms_comm, converse_of_isEquality heq]
      cases a.equalTerms b <;> rfl

/-- The pairs of categories a comparison's table registers are closed under exchange. -/
theorem signatures_swap (rel : Relation) (c d : Category) :
    [c, d] ∈ rel.operator.signatures ↔ [d, c] ∈ rel.operator.signatures := by
  unfold Relation.operator OverloadOperator.signatures comparison
  split <;>
    simp only [OverloadBuilder.on, OverloadBuilder.onEach, OverloadBuilder.new, List.foldl,
      List.nil_append, List.map_append, List.map_map, List.mem_append] <;>
    simp [mem_categoryTuples_pair, Function.comp_def, and_comm, or_comm, or_left_comm]

/-- A relation and its converse register the same pairs: only the name differs. -/
theorem signatures_converse (rel : Relation) :
    rel.converse.operator.signatures = rel.operator.signatures := by
  cases rel <;> rfl

theorem tableTest_converse (rel : Relation) (a b : Term) :
    (rel.converse.tableTest b a).SameKind (rel.tableTest a b) := by
  unfold tableTest
  rw [signatures_converse]
  by_cases hkey : [a.category, b.category] ∈ rel.operator.signatures
  · rw [if_pos ((signatures_swap rel _ _).mp hkey), if_pos hkey]
    exact test_converse rel a b
  · rw [if_neg (mt (signatures_swap rel _ _).mp hkey), if_neg hkey]
    rfl

/-- `!=` answers the negation of `=`, and refuses the pairs `=` refuses. -/
theorem tableTest_ne (a b : Term) :
    (Relation.ne.tableTest a b).SameKind ((Relation.eq.tableTest a b).map not) := by
  have hsigs : Relation.ne.operator.signatures = Relation.eq.operator.signatures := rfl
  unfold tableTest test
  rw [hsigs]
  split
  · cases a.equalTerms b with
    | some e => cases e <;> rfl
    | none => rfl
  · rfl

/-- The only failure of a comparison operator on two terms is a type mismatch. -/
theorem kind_of_apply_error (rel : Relation) {fresh : Nat} {a b : Term} {e : EvalError}
    (h : rel.operator.apply fresh [a, b] = .error e) : e.kind = .typeMismatch := by
  rw [apply_comparison] at h
  unfold tableTest at h
  split at h
  · cases htest : rel.test a b with
    | ok v => rw [htest] at h; cases h
    | error e' =>
        rw [htest] at h
        cases h
        obtain ⟨_, rfl⟩ := test_eq_error htest
        rfl
  · cases h
    rfl

end Relation

theorem Outcome.SameKind.symm {α : Type} {o o' : Outcome α} (h : o.SameKind o') :
    o'.SameKind o := by
  cases o <;> cases o' <;> simp_all [Outcome.SameKind]

theorem Term.boolean_injective : Function.Injective Term.boolean := by
  intro x y h
  cases x <;> cases y <;> simp_all [Term.boolean, Literal.boolean]

/-- The comparison operators on two terms. `=` answers the same boolean on either order of its
arguments, or fails on both; `!=` answers the negation of `=` and fails exactly where `=` fails;
`<` and `<=` answer as `>` and `>=` on the arguments exchanged; and every failure is a type
mismatch. -/
theorem comparison_converse_laws (fresh fresh' : Nat) (a b : Term) :
    (Relation.eq.operator.apply fresh [a, b]).SameKind
      (Relation.eq.operator.apply fresh' [b, a]) ∧
    (∀ x, Relation.eq.operator.apply fresh [a, b] = .ok (Term.boolean x) →
      Relation.ne.operator.apply fresh' [a, b] = .ok (Term.boolean !x)) ∧
    ((∃ e, Relation.ne.operator.apply fresh' [a, b] = .error e) ↔
      ∃ e, Relation.eq.operator.apply fresh [a, b] = .error e) ∧
    (Relation.lt.operator.apply fresh [a, b]).SameKind
      (Relation.gt.operator.apply fresh' [b, a]) ∧
    (Relation.le.operator.apply fresh [a, b]).SameKind
      (Relation.ge.operator.apply fresh' [b, a]) ∧
    ∀ (rel : Relation) (e : EvalError), rel.operator.apply fresh [a, b] = .error e →
      e.kind = .typeMismatch := by
  have hne := Relation.tableTest_ne a b
  refine ⟨?_, ?_, ?_, ?_, ?_, fun rel e h => Relation.kind_of_apply_error rel h⟩
  · rw [Relation.apply_comparison, Relation.apply_comparison]
    exact (Relation.tableTest_converse .eq a b).symm.map Term.boolean
  · intro x hx
    rw [Relation.apply_comparison] at hx ⊢
    cases heq : Relation.eq.tableTest a b with
    | error e => rw [heq] at hx; cases hx
    | ok y =>
        rw [heq] at hx hne
        have hxy : y = x := Term.boolean_injective (Except.ok.inj hx)
        cases hnt : Relation.ne.tableTest a b with
        | error e => rw [hnt] at hne; exact hne.elim
        | ok z =>
            rw [hnt] at hne
            subst hxy
            exact congrArg (fun v => Except.ok (Term.boolean v)) hne
  · rw [Relation.apply_comparison, Relation.apply_comparison]
    cases heq : Relation.eq.tableTest a b <;> cases hnt : Relation.ne.tableTest a b <;>
      rw [heq, hnt] at hne <;> simp_all [Outcome.SameKind]
  · rw [Relation.apply_comparison, Relation.apply_comparison]
    exact (Relation.tableTest_converse .lt a b).symm.map Term.boolean
  · rw [Relation.apply_comparison, Relation.apply_comparison]
    exact (Relation.tableTest_converse .le a b).symm.map Term.boolean

/-- Term order answers the other way round when its arguments are exchanged. -/
theorem Term.termOrder_swap (l r : Term) : r.termOrder l = (l.termOrder r).swap := by
  unfold termOrder
  rw [valueCompare_swap l r, Ordering.swap_then, Std.OrientedOrd.eq_swap (a := r.kindRank)]
  cases l.valueCompare r with
  | some o => rfl
  | none =>
      simp only [Option.map_none, Ordering.swap_then]
      rw [Std.OrientedOrd.eq_swap (a := r.category.rank),
        Std.OrientedOrd.eq_swap (a := r.display)]

/-- "Not greater" is not transitive in term order: `"a"@en` is below `"a!"@en` by value and
`"a!"@en` below `"a!"@fr` by display text, but `"a"@en` is above `"a!"@fr` by display text, where
the closing quote of `"a"` comes after the `!` of `"a!"`. -/
theorem termOrder_not_transitive :
    Term.termOrder (.literal (Literal.langString "a" "en"))
        (.literal (Literal.langString "a!" "en")) = .lt ∧
      Term.termOrder (.literal (Literal.langString "a!" "en"))
        (.literal (Literal.langString "a!" "fr")) = .lt ∧
      Term.termOrder (.literal (Literal.langString "a" "en"))
        (.literal (Literal.langString "a!" "fr")) = .gt := by
  have hen : asciiEqualIgnoringCase "en" "en" = true := beq_self_eq_true _
  refine ⟨?_, by decide +kernel, by decide +kernel⟩
  rw [Term.termOrder_langString, if_pos hen]
  decide

end SparqlExpr
