import Mathlib
import SparqlExpr.Operator.Basic
import SparqlExpr.Proofs.Outcome

/-!
Dispatch of fixed and overloaded operators.

An overload table is described by the calls made on its builder: `on` registers one signature
and `onEach` every tuple that picks one category from each position set. The number of times a
key is registered is therefore a sum over the calls, where `onEach` counts a key once per way of
picking its categories from the position sets (`pickCount`). The main statements:

* `count_categoryTuples`: the tuples of `onEach` are the Cartesian product of the position sets,
  each key as often as it can be picked, for any number of positions and any set sizes;
* `build_isOk_iff`: building succeeds exactly when every registered key has the arity and no
  key is registered twice, and the table is then the entries in order;
* `OverloadOperator.apply_of_mem` and its siblings: a built table dispatches on the exact tuple of
  argument categories;
* `build_addAll_isOk_iff` and `OverloadBuilder.dispatch_of_build_addAll`: the same for the table
  of a sequence of calls, read through how often each key is registered;
* `overload_build_dispatch`: all of this for every sequence of calls, together with the
  dispatch of fixed operators.
-/

namespace SparqlExpr

/-- The number of ways to pick the categories of `key`, in order, one from each position set:
the product of how often each category occurs in its set, zero when the lengths differ. -/
def pickCount : List (List Category) → List Category → Nat
  | [], [] => 1
  | choices :: rest, c :: key => choices.count c * pickCount rest key
  | _, _ => 0

theorem count_cons_map_cons (c d : Category) (key : List Category)
    (tuples : List (List Category)) :
    (tuples.map (c :: ·)).count (d :: key) = if c = d then tuples.count key else 0 := by
  induction tuples with
  | nil => simp
  | cons head tail ih =>
      simp only [List.map_cons, List.count_cons, ih, beq_iff_eq, List.cons.injEq]
      by_cases hcd : c = d <;> simp [hcd]

theorem count_nil_map_cons (c : Category) (tuples : List (List Category)) :
    (tuples.map (c :: ·)).count [] = 0 := by
  rw [List.count_eq_zero]
  simp

/-- The tuples of `onEach` are the Cartesian product of the position sets: no tuple is lost and
each occurs once per way of picking it. -/
theorem count_categoryTuples (positions : List (List Category)) (key : List Category) :
    (categoryTuples positions).count key = pickCount positions key := by
  induction positions generalizing key with
  | nil =>
      cases key with
      | nil => rfl
      | cons c key => simp [categoryTuples, pickCount]
  | cons choices rest ih =>
      rw [categoryTuples, List.count_flatMap]
      cases key with
      | nil =>
          have hterm : (List.count [] ∘ fun c => (categoryTuples rest).map (c :: ·)) =
              fun _ => 0 := by
            funext c
            exact count_nil_map_cons c _
          simp [hterm, pickCount]
      | cons d key =>
          have hterm : (List.count (d :: key) ∘ fun c => (categoryTuples rest).map (c :: ·)) =
              fun c => if c = d then pickCount rest key else 0 := by
            funext c
            simp only [Function.comp_apply, count_cons_map_cons, ih]
          rw [hterm, pickCount]
          induction choices with
          | nil => simp
          | cons c cs ihc =>
              simp only [List.map_cons, List.sum_cons, ihc, List.count_cons, beq_iff_eq]
              by_cases hcd : c = d
              · subst hcd
                simp [Nat.add_mul, Nat.add_comm]
              · simp [hcd]

theorem mem_categoryTuples_iff (positions : List (List Category)) (key : List Category) :
    key ∈ categoryTuples positions ↔ 0 < pickCount positions key := by
  rw [← List.count_pos_iff, count_categoryTuples]

theorem length_of_mem_categoryTuples {positions : List (List Category)} {key : List Category}
    (h : key ∈ categoryTuples positions) : key.length = positions.length := by
  rw [mem_categoryTuples_iff] at h
  induction positions generalizing key with
  | nil =>
      cases key with
      | nil => rfl
      | cons c key => simp [pickCount] at h
  | cons choices rest ih =>
      cases key with
      | nil => simp [pickCount] at h
      | cons c key =>
          simp only [pickCount] at h
          simp [ih (Nat.pos_of_mul_pos_left h)]

theorem mem_categoryTuples_single {choices : List Category} {key : List Category} :
    key ∈ categoryTuples [choices] ↔ ∃ c, key = [c] ∧ c ∈ choices := by
  simp [categoryTuples, and_comm]

theorem mem_categoryTuples_pair {first second : List Category} {key : List Category} :
    key ∈ categoryTuples [first, second] ↔
      ∃ c d, key = [c, d] ∧ c ∈ first ∧ d ∈ second := by
  simp only [categoryTuples, List.mem_flatMap, List.mem_map, List.mem_cons, List.not_mem_nil,
    or_false, exists_eq_left]
  constructor
  · rintro ⟨c, hc, _, ⟨d, hd, rfl⟩, rfl⟩
    exact ⟨c, d, rfl, hc, hd⟩
  · rintro ⟨c, d, rfl, hc, hd⟩
    exact ⟨c, hc, [d], ⟨d, hd, rfl⟩, rfl⟩

/-- One call made on an overload builder. -/
inductive Registration where
  /-- `on`: one signature. -/
  | on (signature : List Category) (compute : Computation)
  /-- `onEach`: every tuple with one category from each position set. -/
  | onEach (positions : List (List Category)) (compute : Computation)

namespace Registration

def compute : Registration → Computation
  | on _ f | onEach _ f => f

/-- The keys a call registers, in order. -/
def keys : Registration → List (List Category)
  | on signature _ => [signature]
  | onEach positions _ => categoryTuples positions

/-- How many times a call registers a key. -/
def multiplicity : Registration → List Category → Nat
  | on signature _, key => if signature = key then 1 else 0
  | onEach positions _, key => pickCount positions key

theorem count_keys (r : Registration) (key : List Category) :
    r.keys.count key = r.multiplicity key := by
  cases r with
  | on signature f => by_cases h : signature = key <;> simp [keys, multiplicity, h]
  | onEach positions f => exact count_categoryTuples positions key

end Registration

/-- How many times a sequence of calls registers a key. -/
def registeredCount (regs : List Registration) (key : List Category) : Nat :=
  (regs.map (·.multiplicity key)).sum

namespace OverloadBuilder

/-- Makes one call on a builder. -/
def add (b : OverloadBuilder) : Registration → OverloadBuilder
  | .on signature f => b.on signature f
  | .onEach positions f => b.onEach positions f

/-- Makes the calls on a builder, in order. -/
def addAll (b : OverloadBuilder) (regs : List Registration) : OverloadBuilder :=
  regs.foldl add b

@[simp] theorem name_addAll (b : OverloadBuilder) (regs : List Registration) :
    (b.addAll regs).name = b.name := by
  induction regs generalizing b with
  | nil => rfl
  | cons r rest ih => cases r <;> exact ih _

@[simp] theorem arity_addAll (b : OverloadBuilder) (regs : List Registration) :
    (b.addAll regs).arity = b.arity := by
  induction regs generalizing b with
  | nil => rfl
  | cons r rest ih => cases r <;> exact ih _

theorem entries_addAll (b : OverloadBuilder) (regs : List Registration) :
    (b.addAll regs).entries =
      b.entries ++ regs.flatMap fun r => r.keys.map (·, r.compute) := by
  induction regs generalizing b with
  | nil => simp [addAll]
  | cons r rest ih =>
      have hstep : (b.addAll (r :: rest)) = (b.add r).addAll rest := rfl
      rw [hstep, ih]
      cases r <;> simp [add, on, onEach, Registration.keys, Registration.compute]

theorem keys_addAll (b : OverloadBuilder) (regs : List Registration) :
    (b.addAll regs).entries.map Prod.fst =
      b.entries.map Prod.fst ++ regs.flatMap Registration.keys := by
  rw [entries_addAll, List.map_append, List.map_flatMap]
  simp [Function.comp_def]

theorem count_keys_addAll (name : String) (arity : Nat) (regs : List Registration)
    (key : List Category) :
    (((new name arity).addAll regs).entries.map Prod.fst).count key =
      registeredCount regs key := by
  rw [keys_addAll, List.count_append, List.count_flatMap]
  simp [new, registeredCount, Function.comp_def, Registration.count_keys]

theorem mem_keys_addAll_iff (name : String) (arity : Nat) (regs : List Registration)
    (key : List Category) :
    key ∈ ((new name arity).addAll regs).entries.map Prod.fst ↔ 0 < registeredCount regs key := by
  rw [← List.count_pos_iff, count_keys_addAll]

theorem mem_entries_addAll {name : String} {arity : Nat} {regs : List Registration}
    {r : Registration} (hr : r ∈ regs) {key : List Category} (hkey : key ∈ r.keys) :
    (key, r.compute) ∈ ((new name arity).addAll regs).entries := by
  rw [entries_addAll, List.mem_append, List.mem_flatMap]
  exact Or.inr ⟨r, hr, List.mem_map.mpr ⟨key, hkey, rfl⟩⟩

theorem insertAll_cons (name : String) (arity : Nat) (table rest)
    (key : List Category) (compute : Computation) :
    insertAll name arity table ((key, compute) :: rest) =
      if key.length ≠ arity then .error (.arity name (.exactly arity) key.length)
      else if key ∈ table.map Prod.fst then
        .error (.invalidExpression
          ("duplicate signature " ++ Category.signatureText key ++ " for " ++ name))
      else insertAll name arity (table ++ [(key, compute)]) rest := by
  have hany : (table.any fun entry => entry.1 == key) = decide (key ∈ table.map Prod.fst) := by
    rw [Bool.eq_iff_iff, List.any_eq_true]
    simp
  rw [insertAll, checkArity_exactly, hany]
  by_cases hlen : key.length = arity
  · by_cases hmem : key ∈ table.map Prod.fst <;> simp [hlen, hmem]
  · simp [hlen]

/-- Adding entries to a table without repeated keys succeeds exactly when every new key has the
arity and no key repeats, and then the table is extended by the entries in order. -/
theorem insertAll_eq_ok_iff (name : String) (arity : Nat) :
    ∀ (entries table : List (List Category × Computation)),
      (table.map Prod.fst).Nodup →
      ((∃ t, insertAll name arity table entries = .ok t) ↔
        (∀ e ∈ entries, e.1.length = arity) ∧ ((table ++ entries).map Prod.fst).Nodup) ∧
      ((∀ e ∈ entries, e.1.length = arity) → ((table ++ entries).map Prod.fst).Nodup →
        insertAll name arity table entries = .ok (table ++ entries))
  | [], table, htable => by simp [insertAll, htable]
  | (key, compute) :: rest, table, htable => by
      rw [insertAll_cons]
      by_cases hlen : key.length = arity
      · by_cases hmem : key ∈ table.map Prod.fst
        · have hdup : ¬(table.map Prod.fst ++ key :: rest.map Prod.fst).Nodup := by
            simp only [List.nodup_append, List.nodup_cons]
            intro h
            exact h.2.2 key hmem key (List.mem_cons_self) rfl
          simp [hlen, hmem, hdup]
        · have hnext : ((table ++ [(key, compute)]).map Prod.fst).Nodup := by
            rw [List.map_append, List.nodup_append_comm]
            exact List.nodup_cons.mpr ⟨hmem, htable⟩
          have ih := insertAll_eq_ok_iff name arity rest (table ++ [(key, compute)]) hnext
          simp only [List.append_assoc, List.singleton_append] at ih
          simp only [hlen, hmem, ne_eq, not_true_eq_false, if_false, List.mem_cons,
            forall_eq_or_imp, true_and]
          exact ih
      · simp [hlen]

/-- Building succeeds exactly when every entry's key has the arity and no key is given twice;
the operator then has the builder's name and arity and the entries in order as its table. -/
theorem build_isOk_iff (b : OverloadBuilder) :
    ((∃ op, b.build = .ok op) ↔
      (∀ e ∈ b.entries, e.1.length = b.arity) ∧ (b.entries.map Prod.fst).Nodup) ∧
    ((∀ e ∈ b.entries, e.1.length = b.arity) → (b.entries.map Prod.fst).Nodup →
      b.build = .ok ⟨b.name, b.arity, b.entries⟩) := by
  have h := insertAll_eq_ok_iff b.name b.arity b.entries [] List.nodup_nil
  simp only [List.nil_append] at h
  constructor
  · rw [← h.1]
    constructor
    · rintro ⟨op, hop⟩
      simp only [build, Outcome.bind_eq_ok_iff] at hop
      obtain ⟨t, ht, -⟩ := hop
      exact ⟨t, ht⟩
    · rintro ⟨t, ht⟩
      exact ⟨⟨b.name, b.arity, t⟩, by simp [build, ht]⟩
  · intro hlen hnodup
    simp [build, h.2 hlen hnodup]

/-- The keys of the calls are distinct exactly when no key is registered twice. -/
theorem nodup_keys_addAll_iff (name : String) (arity : Nat) (regs : List Registration) :
    (((new name arity).addAll regs).entries.map Prod.fst).Nodup ↔
      ∀ key, registeredCount regs key ≤ 1 := by
  rw [List.nodup_iff_count_le_one]
  simp only [count_keys_addAll]

/-- Every entry of the calls has the arity exactly when every registered key does. -/
theorem lengths_addAll_iff (name : String) (arity : Nat) (regs : List Registration) :
    (∀ e ∈ ((new name arity).addAll regs).entries, e.1.length = arity) ↔
      ∀ key, 0 < registeredCount regs key → key.length = arity := by
  constructor
  · intro h key hkey
    rw [← mem_keys_addAll_iff] at hkey
    obtain ⟨e, he, rfl⟩ := List.mem_map.mp hkey
    exact h e he
  · intro h e he
    exact h e.1 ((mem_keys_addAll_iff name arity regs e.1).mp (List.mem_map_of_mem he))

/-- Building the table of a sequence of calls succeeds exactly when no key is registered twice
and every registered key has the arity. -/
theorem build_addAll_isOk_iff (name : String) (arity : Nat) (regs : List Registration) :
    (∃ op, ((new name arity).addAll regs).build = .ok op) ↔
      (∀ key, registeredCount regs key ≤ 1) ∧
        ∀ key, 0 < registeredCount regs key → key.length = arity := by
  have harity : ((new name arity).addAll regs).arity = arity := by simp [new]
  rw [(build_isOk_iff _).1, harity, lengths_addAll_iff, nodup_keys_addAll_iff, and_comm]

end OverloadBuilder

namespace OverloadOperator

theorem lookup_eq_some_of_mem {op : OverloadOperator} (hnodup : (op.table.map Prod.fst).Nodup)
    {key : List Category} {compute : Computation} (hmem : (key, compute) ∈ op.table) :
    op.lookup key = some compute := by
  obtain ⟨name, arity, table⟩ := op
  simp only [lookup]
  induction table with
  | nil => simp at hmem
  | cons entry rest ih =>
      simp only [List.map_cons, List.nodup_cons] at hnodup
      simp only [List.mem_cons] at hmem
      rcases hmem with rfl | hmem
      · simp
      · have hne : entry.1 ≠ key := by
          intro heq
          exact hnodup.1 (heq ▸ List.mem_map_of_mem hmem)
        simp [hne, ih hnodup.2 hmem]

theorem lookup_eq_none {op : OverloadOperator} {key : List Category}
    (hkey : key ∉ op.table.map Prod.fst) : op.lookup key = none := by
  simp only [lookup, Option.map_eq_none_iff, List.find?_eq_none, beq_iff_eq]
  intro entry hentry heq
  exact hkey (heq ▸ List.mem_map_of_mem hentry)

/-- With a wrong number of arguments, the operator fails with an arity error. -/
theorem apply_of_length_ne (op : OverloadOperator) (fresh : Nat) {args : List Term}
    (hlen : args.length ≠ op.arity) :
    op.apply fresh args = .error (.arity op.name (.exactly op.arity) args.length) := by
  simp [apply, checkArity_exactly, hlen]

/-- A tuple of argument categories missing from the table is a type mismatch naming it. -/
theorem apply_of_not_mem (op : OverloadOperator) (fresh : Nat) {args : List Term}
    (hlen : args.length = op.arity) (hkey : args.map Term.category ∉ op.table.map Prod.fst) :
    op.apply fresh args = .error (.typeMismatch op.name (args.map Term.category)) := by
  simp [apply, checkArity_exactly, hlen, lookup_eq_none hkey]

/-- A tuple of argument categories in the table runs the computation registered under it. -/
theorem apply_of_mem (op : OverloadOperator) (fresh : Nat) {args : List Term}
    (hnodup : (op.table.map Prod.fst).Nodup) (hlen : args.length = op.arity)
    {compute : Computation} (hmem : (args.map Term.category, compute) ∈ op.table) :
    op.apply fresh args = compute fresh args := by
  simp [apply, checkArity_exactly, hlen, lookup_eq_some_of_mem hnodup hmem]

end OverloadOperator

/-- A table built from a sequence of calls has the name and arity it was started with, fails
with an arity error on a wrong number of arguments and with a type mismatch on a tuple of
categories no call registered, and otherwise runs the computation of a call that registered the
tuple. -/
theorem OverloadBuilder.dispatch_of_build_addAll {name : String} {arity : Nat}
    {regs : List Registration} {op : OverloadOperator}
    (hop : ((OverloadBuilder.new name arity).addAll regs).build = .ok op) :
    op.name = name ∧ op.arity = arity ∧ ∀ (fresh : Nat) (args : List Term),
      (args.length ≠ arity →
        op.apply fresh args = .error (.arity name (.exactly arity) args.length)) ∧
      (args.length = arity → registeredCount regs (args.map Term.category) = 0 →
        op.apply fresh args = .error (.typeMismatch name (args.map Term.category))) ∧
      (args.length = arity → ∀ r ∈ regs, 0 < r.multiplicity (args.map Term.category) →
        op.apply fresh args = r.compute fresh args) := by
  set b := (OverloadBuilder.new name arity).addAll regs with hb
  have hname : b.name = name := by simp [hb, OverloadBuilder.new]
  have harity : b.arity = arity := by simp [hb, OverloadBuilder.new]
  -- a table that was built has distinct keys of the arity, and is the entries in order
  obtain ⟨hlengths, hdistinct⟩ := (OverloadBuilder.build_isOk_iff b).1.mp ⟨op, hop⟩
  rw [(OverloadBuilder.build_isOk_iff b).2 hlengths hdistinct] at hop
  cases hop
  refine ⟨hname, harity, fun fresh args => ⟨?_, ?_, ?_⟩⟩
  · intro hlen
    rw [← harity] at hlen
    simpa [hname, harity] using OverloadOperator.apply_of_length_ne ⟨b.name, b.arity, b.entries⟩ fresh hlen
  · intro hlen hzero
    have hkey : args.map Term.category ∉ b.entries.map Prod.fst := by
      rw [hb, OverloadBuilder.mem_keys_addAll_iff, hzero]
      exact Nat.lt_irrefl 0
    simpa [hname] using OverloadOperator.apply_of_not_mem ⟨b.name, b.arity, b.entries⟩ fresh
      (hlen.trans harity.symm) hkey
  · intro hlen r hr hpos
    have hkey : args.map Term.category ∈ r.keys := by
      rw [← List.count_pos_iff, Registration.count_keys]
      exact hpos
    exact OverloadOperator.apply_of_mem ⟨b.name, b.arity, b.entries⟩ fresh hdistinct
      (hlen.trans harity.symm) (OverloadBuilder.mem_entries_addAll hr hkey)

namespace FixedOperator

/-- A fixed operator fails with an arity error on a wrong number of arguments, with a type
mismatch when some argument's category is not the signature's at its position, and otherwise
gives its computation's result. -/
theorem apply_eq (op : FixedOperator) (fresh : Nat) (args : List Term) :
    op.apply fresh args =
      if args.length ≠ op.signature.length then
        .error (.arity op.name (.exactly op.signature.length) args.length)
      else if ∃ (i : Nat) (hi : i < args.length) (hs : i < op.signature.length),
          args[i].category ≠ op.signature[i] then
        .error (.typeMismatch op.name (args.map Term.category))
      else op.compute fresh args := by
  by_cases hlen : args.length = op.signature.length
  · have hmatch : (args.map Term.category = op.signature) ↔
        ¬∃ (i : Nat) (hi : i < args.length) (hs : i < op.signature.length),
          args[i].category ≠ op.signature[i] := by
      rw [List.ext_get_iff]
      simp [hlen]
    rw [if_neg (not_not.mpr hlen)]
    by_cases hfound : args.map Term.category = op.signature
    · rw [if_neg (hmatch.mp hfound)]
      simp [apply, arity, checkArity_exactly, hlen, hfound]
    · rw [if_pos (not_not.mp (mt hmatch.mpr hfound))]
      simp [apply, arity, checkArity_exactly, hlen, hfound]
  · rw [if_pos hlen]
    simp [apply, arity, checkArity_exactly, hlen]

end FixedOperator

/-- An overload table built from any sequence of `on` and `onEach` calls: building succeeds
exactly when every registered key has the arity and none is registered twice, and the operator
then fails with an arity error on a wrong number of arguments, with a type mismatch on a tuple of
argument categories that no call registered, and otherwise runs the computation of the call
that registered the tuple. A fixed operator dispatches the same way on its one signature. -/
theorem overload_build_dispatch (name : String) (arity : Nat) (regs : List Registration) :
    ((∃ op, ((OverloadBuilder.new name arity).addAll regs).build = .ok op) ↔
      (∀ key, registeredCount regs key ≤ 1) ∧
        ∀ key, 0 < registeredCount regs key → key.length = arity) ∧
    (∀ op, ((OverloadBuilder.new name arity).addAll regs).build = .ok op →
      op.name = name ∧ op.arity = arity ∧ ∀ (fresh : Nat) (args : List Term),
        (args.length ≠ arity →
          op.apply fresh args = .error (.arity name (.exactly arity) args.length)) ∧
        (args.length = arity → registeredCount regs (args.map Term.category) = 0 →
          op.apply fresh args = .error (.typeMismatch name (args.map Term.category))) ∧
        (args.length = arity → ∀ r ∈ regs, 0 < r.multiplicity (args.map Term.category) →
          op.apply fresh args = r.compute fresh args)) ∧
    ∀ (op : FixedOperator) (fresh : Nat) (args : List Term),
      op.apply fresh args =
        if args.length ≠ op.signature.length then
          .error (.arity op.name (.exactly op.signature.length) args.length)
        else if ∃ (i : Nat) (hi : i < args.length) (hs : i < op.signature.length),
            args[i].category ≠ op.signature[i] then
          .error (.typeMismatch op.name (args.map Term.category))
        else op.compute fresh args :=
  ⟨OverloadBuilder.build_addAll_isOk_iff name arity regs,
    fun _ hop => OverloadBuilder.dispatch_of_build_addAll hop, FixedOperator.apply_eq⟩

end SparqlExpr
