import SparqlExpr.Proofs.Builtins
import SparqlExpr.Proofs.Membership

/-!
Dispatch faults, and the built-in computations that never raise them.

An operator is given arguments it cannot take in two ways: a number of arguments that its arity
refuses (an `arity` error), or evaluated arguments given to a special form, which needs its
argument expressions (the `invalidExpression` error of `Operator.applyEvaluated` on a special
form). `EvalError.IsDispatchFault` names both. Construction checks arity, and evaluation checks
it again; whether the second check can fail depends also on what the computations of the
operators raise themselves.

`Operator.FaultFree` says that every computation of a fixed or overloaded operator, run on as
many arguments as the operator takes, raises no dispatch fault. It is carried through overload
builders by `OverloadBuilder.All` and through registry steps by `Registry.All`, the way soundness
is, and `faultFree_builtins` gives it for every built-in operator and cast function: a built-in
computation fails only with type mismatches, non-coercible values, arithmetic faults and
invalid arguments.
-/

namespace SparqlExpr

open Builtin

/-- An error of giving an operator arguments it cannot take: a number of arguments its arity
refuses, or evaluated arguments given to a special form. -/
def EvalError.IsDispatchFault : EvalError → Prop
  | .arity .. => True
  | .invalidExpression message =>
    ∃ name, message = "special operator " ++ name ++ " cannot be applied to evaluated arguments"
  | _ => False

namespace EvalError

@[simp] theorem isDispatchFault_typeMismatch (op : String) (found : List Category) :
    ¬(typeMismatch op found).IsDispatchFault := id

@[simp] theorem isDispatchFault_notCoercible (c : Category) : ¬(notCoercible c).IsDispatchFault :=
  id

@[simp] theorem isDispatchFault_unimplemented (name : String) :
    ¬(unimplemented name).IsDispatchFault := id

@[simp] theorem isDispatchFault_unboundVariable (name : String) :
    ¬(unboundVariable name).IsDispatchFault := id

@[simp] theorem isDispatchFault_arithmetic (op : String) (fault : ArithmeticFault) :
    ¬(arithmetic op fault).IsDispatchFault := id

@[simp] theorem isDispatchFault_invalidArgument (op message : String) :
    ¬(invalidArgument op message).IsDispatchFault := id

@[simp] theorem isDispatchFault_external (message : String) : ¬(external message).IsDispatchFault :=
  id

@[simp] theorem isDispatchFault_cancelled : ¬cancelled.IsDispatchFault := id

/-- The message of `bound` on anything but a variable names no special form. -/
theorem not_isDispatchFault_bound (text : String) :
    ¬(invalidExpression ("bound expects a variable, got " ++ text)).IsDispatchFault := by
  rintro ⟨name, h⟩
  have := congrArg String.toList h
  simp at this

/-- The message of an aggregate evaluated outside a group names no special form. -/
theorem not_isDispatchFault_aggregate (agg : Aggregator) :
    ¬(invalidExpression (agg.name ++ " aggregate outside of a group")).IsDispatchFault := by
  rintro ⟨name, h⟩
  have := congrArg String.toList h
  cases agg <;> simp [Aggregator.name] at this

end EvalError

/-- An outcome that is no dispatch fault. -/
def Outcome.FaultFree {α : Type} (o : Outcome α) : Prop := ∀ e, o = .error e → ¬e.IsDispatchFault

namespace Outcome

variable {α β : Type}

@[simp] theorem faultFree_ok (a : α) : Outcome.FaultFree (Except.ok a : Outcome α) := by
  intro e h
  cases h

@[simp] theorem faultFree_error (e : EvalError) :
    Outcome.FaultFree (Except.error e : Outcome α) ↔ ¬e.IsDispatchFault := by
  simp [FaultFree]

@[simp] theorem faultFree_pure (a : α) : Outcome.FaultFree (pure a : Outcome α) := faultFree_ok a

@[simp] theorem faultFree_bind {x : Outcome α} {f : α → Outcome β} :
    Outcome.FaultFree (x >>= f) ↔ Outcome.FaultFree x ∧ ∀ a, x = .ok a → Outcome.FaultFree (f a) := by
  cases x with
  | error e => simp [FaultFree]
  | ok a => simp [FaultFree]

theorem faultFree_mapM {f : α → Outcome β} (hf : ∀ a, Outcome.FaultFree (f a)) :
    ∀ xs : List α, Outcome.FaultFree (xs.mapM f)
  | [] => by simp
  | x :: rest => by simp [List.mapM_cons, hf, faultFree_mapM hf rest]

theorem faultFree_foldlM {f : β → α → Outcome β} (hf : ∀ acc a, Outcome.FaultFree (f acc a)) :
    ∀ (xs : List α) (init : β), Outcome.FaultFree (xs.foldlM f init)
  | [], _ => by simp
  | x :: rest, init => by simp [List.foldlM_cons, hf, faultFree_foldlM hf rest]

end Outcome

section Arguments

variable (op : String) (t : Term)

@[simp] theorem faultFree_numericArg : Outcome.FaultFree (numericArg op t) := by
  unfold numericArg
  split <;> simp

@[simp] theorem faultFree_lexicalArg : Outcome.FaultFree (lexicalArg op t) := by
  unfold lexicalArg
  split <;> simp

@[simp] theorem faultFree_booleanOf : Outcome.FaultFree (booleanOf op t) := by
  unfold booleanOf
  split <;> simp

@[simp] theorem faultFree_ebv : Outcome.FaultFree t.ebv := by
  intro e he
  have hkind := Term.kind_of_ebv_eq_error he
  cases e <;> simp_all [EvalError.kind]

end Arguments

/-- A computation that raises no dispatch fault on `n` arguments, whatever they are. -/
def Computation.FaultFreeAt (n : Nat) (compute : Computation) : Prop :=
  ∀ fresh args, args.length = n → Outcome.FaultFree (compute fresh args)

theorem faultFreeAt_unary {name : String} {f : Term → Outcome Term}
    (hf : ∀ a, Outcome.FaultFree (f a)) : Computation.FaultFreeAt 1 (unary name f) := by
  intro fresh args hlen
  match args, hlen with
  | [a], _ => exact hf a

theorem faultFreeAt_binary {name : String} {f : Term → Term → Outcome Term}
    (hf : ∀ a b, Outcome.FaultFree (f a b)) : Computation.FaultFreeAt 2 (binary name f) := by
  intro fresh args hlen
  match args, hlen with
  | [a, b], _ => exact hf a b

/-- Every computation of a fixed or overloaded operator raises no dispatch fault on as many
arguments as the operator takes. -/
def Operator.FaultFree : Operator → Prop
  | fixed op => Computation.FaultFreeAt op.signature.length op.compute
  | overloaded op => ∀ entry ∈ op.table, Computation.FaultFreeAt op.arity entry.2
  | special _ => True

namespace OverloadBuilder

/-- Every entry of the builder raises no dispatch fault on as many arguments as it takes. -/
def FaultFree (b : OverloadBuilder) : Prop :=
  ∀ entry ∈ b.entries, Computation.FaultFreeAt b.arity entry.2

variable {b : OverloadBuilder}

/-- A builder whose entries all run one fault-free computation. -/
theorem FaultFree.of_compute {compute : Computation} (h : ∀ entry ∈ b.entries, entry.2 = compute)
    (hcompute : Computation.FaultFreeAt b.arity compute) : b.FaultFree := fun entry hentry =>
  h entry hentry ▸ hcompute

-- `on` and `onEach` keep the arity, so a fault-free builder is one whose entries all run
-- fault-free on that one number of arguments.
theorem faultFree_new (name : String) (arity : Nat) : (OverloadBuilder.new name arity).FaultFree :=
  All.new (P := fun _ => Computation.FaultFreeAt arity) name arity

theorem FaultFree.on (hb : b.FaultFree) (key : List Category) {compute : Computation}
    (hcompute : Computation.FaultFreeAt b.arity compute) : (b.on key compute).FaultFree :=
  All.on (P := fun _ => Computation.FaultFreeAt b.arity) hb hcompute

theorem FaultFree.onEach (hb : b.FaultFree) (positions : List (List Category))
    {compute : Computation} (hcompute : Computation.FaultFreeAt b.arity compute) :
    (b.onEach positions compute).FaultFree :=
  All.onEach (P := fun _ => Computation.FaultFreeAt b.arity) hb fun _ _ => hcompute

/-- The operator a fault-free builder builds is fault-free: its table is the builder's
entries. -/
theorem FaultFree.build (hb : b.FaultFree) {op : OverloadOperator} (hop : b.build = .ok op) :
    (Operator.overloaded op).FaultFree := by
  have hok := (build_isOk_iff b).1.mp ⟨op, hop⟩
  rw [(build_isOk_iff b).2 hok.1 hok.2] at hop
  cases hop
  exact hb

end OverloadBuilder

theorem OverloadBuilder.FaultFree.foldl_on {α : Type} (xs : List α) (key : α → List Category)
    {compute : Computation} :
    ∀ {b : OverloadBuilder}, b.FaultFree → Computation.FaultFreeAt b.arity compute →
      (xs.foldl (fun b x => b.on (key x) compute) b).FaultFree := by
  induction xs with
  | nil => intro b hb _; exact hb
  | cons x rest ih => intro b hb hcompute; exact ih (hb.on (key x) hcompute) hcompute

theorem faultFree_unaryOver (name : String) (sources : List Category) {f : Term → Outcome Term}
    (hf : ∀ a, Outcome.FaultFree (f a)) : (unaryOver name sources f).FaultFree :=
  (OverloadBuilder.faultFree_new name 1).onEach _ (faultFreeAt_unary hf)

section Builtins

variable {r : Registry}

theorem faultFree_arithmetic (op : ArithmeticOp) : (arithmetic op).FaultFree := by
  refine (OverloadBuilder.faultFree_new _ 2).onEach _ (faultFreeAt_binary fun a b => ?_)
  simp only [Outcome.faultFree_bind, faultFree_numericArg, true_and]
  intro x _ y _
  split <;> simp

theorem faultFree_registerArithmetic (hr : r.All Operator.FaultFree) :
    (registerArithmetic r).All Operator.FaultFree := by
  unfold registerArithmetic
  refine List.foldlRecOn _ _ ?_ fun _ hr entry _ => hr.registerOverload fun _ =>
    (faultFree_unaryOver _ _ fun a => by simp).build
  exact List.foldlRecOn _ _ hr fun _ hr op _ => hr.registerOverload fun _ =>
    (faultFree_arithmetic op).build

theorem Relation.faultFree_test (rel : Relation) (a b : Term) : Outcome.FaultFree (rel.test a b) := by
  intro e he
  rw [Relation.test_eq_error he]
  simp

theorem faultFree_registerComparison (hr : r.All Operator.FaultFree) :
    (registerComparison r).All Operator.FaultFree := by
  refine List.foldlRecOn _ _ hr fun _ hr rel _ => hr.registerOverload fun _ => ?_
  refine (OverloadBuilder.FaultFree.of_compute Relation.compute_of_mem_comparison ?_).build
  rw [Relation.arity_comparison]
  exact faultFreeAt_binary fun a b => by simp [Relation.faultFree_test]

theorem faultFree_registerSpecialForms (hr : r.All Operator.FaultFree) :
    (registerSpecialForms r).All Operator.FaultFree :=
  List.foldlRecOn _ _ hr fun _ hr _ _ => hr.register trivial

theorem faultFree_substringTest (name : String) (test : String → String → Bool) :
    (substringTest name test).FaultFree := by
  refine OverloadBuilder.FaultFree.foldl_on _ id (OverloadBuilder.faultFree_new name 2)
    (faultFreeAt_binary fun a b => ?_)
  -- the tags are checked first, with the continuation in each branch
  split
  · split <;> simp
  · simp

theorem faultFree_registerStrings (hr : r.All Operator.FaultFree) :
    (registerStrings r).All Operator.FaultFree := by
  have hcase : ∀ name (map : String → String), (caseMapping name map).FaultFree := fun _ _ =>
    faultFree_unaryOver _ _ fun a => by simp
  unfold registerStrings
  refine (((((hr.registerOverload fun _ => (faultFree_unaryOver _ _ fun a => by simp).build
    ).registerOverload fun _ => (hcase _ _).build).registerOverload fun _ =>
    (hcase _ _).build).registerOverload fun _ => (faultFree_substringTest _ _).build
    ).registerOverload fun _ => (faultFree_substringTest _ _).build).registerOverload fun _ =>
    (faultFree_substringTest _ _).build

theorem faultFree_termTest (name : String) (test : Term → Bool) : (termTest name test).FaultFree :=
  faultFree_unaryOver _ _ fun _ => by simp

theorem faultFree_registerTermFunctions {r' : Registry} (hr : r.All Operator.FaultFree)
    (h : registerTermFunctions r = .ok r') : r'.All Operator.FaultFree := by
  unfold registerTermFunctions at h
  obtain ⟨r₁, h₁, h₂⟩ := Outcome.bind_eq_ok_iff.mp h
  have hstr : ∀ t, Outcome.FaultFree (registerTermFunctions.strOf t) := fun t => by
    simp [registerTermFunctions.strOf]
  have hr₁ : r₁.All Operator.FaultFree := Registry.All.addAlias ((((hr.registerOverload fun _ =>
    ((faultFree_unaryOver _ _ hstr).onEach _ (faultFreeAt_unary hstr)).build).registerOverload
    fun _ => (faultFree_unaryOver _ _ fun _ => by simp).build).registerOverload fun _ =>
    (faultFree_unaryOver _ _ fun t => by split <;> simp).build).registerOverload fun _ =>
    (faultFree_termTest _ _).build) h₁
  have hpair : ∀ name (f : String → String → Outcome Term), (∀ s s', Outcome.FaultFree (f s s')) →
      Computation.FaultFreeAt 2 (binary name fun a b => do
        let s ← lexicalArg name a
        f s (← lexicalArg name b)) := fun name f hf =>
    faultFreeAt_binary fun a b => by simp [hf]
  refine Registry.All.addAlias ((((((((((hr₁.registerOverload fun _ =>
    (faultFree_termTest _ _).build).registerOverload fun _ =>
    (faultFree_termTest _ _).build).registerOverload fun _ =>
    (faultFree_termTest _ _).build).registerOverload fun _ =>
    ((OverloadBuilder.faultFree_new _ 2).onEach _ (faultFreeAt_binary fun _ _ => by simp)).build
    ).registerOverload fun _ => (faultFree_unaryOver _ _ fun _ => by simp).build).register
    ?bnode).register ?strlang).register ?strdt).register ?langmatches).register ?iri) h₂
  case bnode => exact fun _ _ _ => by simp
  case strlang => exact hpair _ _ fun _ _ => by split <;> simp
  case strdt => exact hpair _ _ fun _ _ => by split <;> simp
  case langmatches => exact hpair _ _ fun _ _ => by simp
  case iri => exact faultFreeAt_unary fun _ => by simp

theorem faultFree_cast (datatype : String) (sources : List Category) {f : Term → Outcome Term}
    (hf : ∀ a, Outcome.FaultFree (f a)) : (Builtin.cast datatype sources f).FaultFree := by
  unfold Builtin.cast
  split
  · exact (faultFree_unaryOver _ _ hf).build ‹_›
  · intro entry hentry
    simp at hentry

theorem faultFree_parseAs (t : Term) (datatype : String) : Outcome.FaultFree (parseAs t datatype) := by
  simp only [parseAs, Outcome.faultFree_bind, faultFree_lexicalArg, true_and]
  intro s _
  split <;> simp

theorem faultFree_registerCasts (hr : r.All Operator.FaultFree) :
    (registerCasts r).All Operator.FaultFree := by
  have hdouble : ∀ cast t, Outcome.FaultFree (doubleOf cast t) := fun cast t => by
    unfold doubleOf
    split <;> simp
  refine ((((((hr.registerFunction _ (faultFree_cast _ _ fun t => by simp [castToString])
    ).registerFunction _ (faultFree_cast _ _ fun t => ?boolean)).registerFunction _
    (faultFree_cast _ _ fun t => ?integer)).registerFunction _
    (faultFree_cast _ _ fun t => ?decimal)).registerFunction _
    (faultFree_cast _ _ fun t => ?float)).registerFunction _
    (faultFree_cast _ _ fun t => ?double)).registerFunction _
    (faultFree_cast _ _ fun t => ?dateTime)
  case boolean =>
    unfold castToBoolean
    split <;> simp [faultFree_parseAs]
  case integer =>
    unfold castToInteger
    split
    · simp [faultFree_parseAs]
    · simp
    · simp only [Outcome.faultFree_bind, faultFree_numericArg, true_and]
      intro n _
      split <;> simp
      split <;> simp [cannotCast]
  case decimal =>
    unfold castToDecimal
    split
    · simp [faultFree_parseAs]
    · simp
    · simp only [Outcome.faultFree_bind, faultFree_numericArg, true_and]
      intro n _
      split <;> simp [cannotCast]
  case float =>
    unfold castToFloat
    split <;> simp [faultFree_parseAs, hdouble]
  case double =>
    unfold castToDouble
    split <;> simp [faultFree_parseAs, hdouble]
  case dateTime =>
    unfold castToDateTime
    split <;> simp [faultFree_parseAs]

theorem DatePart.faultFree_extract (part : DatePart) (t : Term) :
    Outcome.FaultFree (part.extract t) := by
  unfold DatePart.extract
  dsimp only
  split <;> simp

theorem faultFree_registerDateParts (hr : r.All Operator.FaultFree) :
    (registerDateParts r).All Operator.FaultFree :=
  List.foldlRecOn _ _ hr fun _ hr part _ => hr.registerOverload fun _ =>
    (faultFree_unaryOver _ _ (DatePart.faultFree_extract part)).build

/-- No computation of a built-in operator or cast function raises a dispatch fault on as many
arguments as it takes. -/
theorem faultFree_builtins : Registry.builtins.All Operator.FaultFree := by
  unfold Registry.builtins
  have hr := faultFree_registerStrings (faultFree_registerSpecialForms
    (faultFree_registerComparison (faultFree_registerArithmetic Registry.All.empty)))
  refine faultFree_registerDateParts (faultFree_registerCasts ?_)
  split
  · exact faultFree_registerTermFunctions hr ‹_›
  · exact hr

end Builtins

/-- A fixed or overloaded operator whose computations raise no dispatch fault raises none on
arguments its arity accepts: the check inside `apply` passes again, and the computation it
reaches gets as many arguments as it takes. -/
theorem Operator.FaultFree.applyEvaluated {op : Operator} (hop : op.FaultFree)
    (hclass : op.opClass ≠ .special) {fresh : Nat} {args : List Term}
    (harity : op.arity.accepts args.length = true) :
    Outcome.FaultFree (op.applyEvaluated fresh args) := by
  cases op with
  | fixed f =>
      have hlen : args.length = f.signature.length := by
        simpa [Operator.arity, FixedOperator.arity, Arity.accepts] using harity
      have hcheck : SparqlExpr.checkArity f.name f.arity args.length = .ok () := if_pos harity
      simp only [Operator.applyEvaluated, FixedOperator.apply, hcheck, Outcome.ok_bind]
      split
      · exact hop fresh args hlen
      · simp
  | overloaded o =>
      have hlen : args.length = o.arity := by
        simpa [Operator.arity, Arity.accepts] using harity
      have hcheck : SparqlExpr.checkArity o.name (.exactly o.arity) args.length = .ok () :=
        if_pos harity
      simp only [Operator.applyEvaluated, OverloadOperator.apply, hcheck, Outcome.ok_bind]
      split
      · exact hop _ (OverloadOperator.mem_of_lookup ‹_›) fresh args hlen
      · simp
  | special form => exact absurd rfl hclass

section Aggregates

theorem faultFree_sumValues (values : List Term) : Outcome.FaultFree (sumValues values) := by
  unfold sumValues
  refine Outcome.faultFree_foldlM (fun acc t => ?_) values _
  simp only [Outcome.faultFree_bind, faultFree_numericArg, true_and]
  intro n _
  split <;> simp

/-- Folding the values of a group raises no dispatch fault. -/
theorem Aggregator.faultFree_fold (agg : Aggregator) (separator : String) (values : List Term) :
    Outcome.FaultFree (agg.fold separator values) := by
  cases agg with
  | sum => simp [Aggregator.fold, faultFree_sumValues]
  | avg =>
      simp only [Aggregator.fold]
      split
      · simp
      · simp only [Outcome.faultFree_bind, faultFree_sumValues, true_and]
        intro total _
        split <;> simp
  | groupConcat => simp [Aggregator.fold, Outcome.faultFree_mapM (faultFree_lexicalArg _)]
  | count | min | max | sample => simp [Aggregator.fold]

end Aggregates

end SparqlExpr
