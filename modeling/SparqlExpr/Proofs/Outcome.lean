import SparqlExpr.Error

/-!
Rewriting rules for outcomes: a bind on a result goes on with its value, a bind on an error
keeps the error, and an arity check passes exactly when the count is accepted.
-/

namespace SparqlExpr

variable {α β : Type}

@[simp] theorem Outcome.ok_bind (a : α) (f : α → Outcome β) :
    ((Except.ok a : Outcome α) >>= f) = f a := rfl

@[simp] theorem Outcome.error_bind (e : EvalError) (f : α → Outcome β) :
    ((Except.error e : Outcome α) >>= f) = .error e := rfl

@[simp] theorem Outcome.pure_eq_ok (a : α) : (pure a : Outcome α) = .ok a := rfl

@[simp] theorem Outcome.map_ok (f : α → β) (a : α) : (Except.ok a : Outcome α).map f = .ok (f a) :=
  rfl

@[simp] theorem Outcome.map_error (f : α → β) (e : EvalError) :
    (Except.error e : Outcome α).map f = .error e := rfl

@[simp] theorem Outcome.throw_eq_error (e : EvalError) : (throw e : Outcome α) = .error e := rfl

theorem Outcome.bind_eq_ok_iff {x : Outcome α} {f : α → Outcome β} {b : β} :
    (x >>= f) = .ok b ↔ ∃ a, x = .ok a ∧ f a = .ok b := by
  cases x <;> simp

theorem Outcome.bind_eq_error_iff {x : Outcome α} {f : α → Outcome β} {e : EvalError} :
    (x >>= f) = .error e ↔ x = .error e ∨ ∃ a, x = .ok a ∧ f a = .error e := by
  cases x <;> simp

theorem checkArity_exactly (name : String) (k n : Nat) :
    checkArity name (.exactly k) n =
      if n = k then .ok () else .error (.arity name (.exactly k) n) := by
  simp [checkArity, Arity.accepts]

end SparqlExpr
