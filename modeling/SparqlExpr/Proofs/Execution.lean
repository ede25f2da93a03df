import SparqlExpr.Evaluation

/-!
How evaluation steps run. `EvalM.exec` runs a step from a state and gives its outcome and the
state it leaves; one equation per primitive says what it does, and a bind runs its first step
and then, on a value, the rest from the state the first step left.

`EvalM.Yields P m` says that every value `m` returns, from any state, satisfies `P`. It is
carried through binds, `guarded` and `attempt` by the rules at the end, which are all that the
preservation proofs over the evaluator use.
-/

namespace SparqlExpr

namespace EvalM

variable {α β : Type}

/-- Runs a step from a state: its outcome and the state it leaves. -/
def exec (m : EvalM α) (s : EvalState) : Outcome α × EvalState := m.run.run s

@[simp] theorem exec_pure (a : α) (s : EvalState) : exec (pure a) s = (.ok a, s) := rfl

@[simp] theorem exec_throw (e : EvalError) (s : EvalState) :
    exec (throw e : EvalM α) s = (.error e, s) := rfl

theorem exec_bind (m : EvalM α) (f : α → EvalM β) (s : EvalState) :
    exec (m >>= f) s = match exec m s with
      | (.ok a, s') => exec (f a) s'
      | (.error e, s') => (.error e, s') := by
  simp only [exec, bind, ExceptT.bind, ExceptT.run, ExceptT.mk, StateT.run, StateT.bind]
  rcases m s with ⟨_ | _, _⟩ <;> rfl

theorem exec_bind_of_ok {m : EvalM α} {f : α → EvalM β} {s s' : EvalState} {a : α}
    (h : exec m s = (.ok a, s')) : exec (m >>= f) s = exec (f a) s' := by
  rw [exec_bind, h]

theorem exec_bind_of_error {m : EvalM α} {f : α → EvalM β} {s s' : EvalState} {e : EvalError}
    (h : exec m s = (.error e, s')) : exec (m >>= f) s = (.error e, s') := by
  rw [exec_bind, h]

/-- `attempt` turns the outcome of a step into its value and keeps the state it leaves. -/
@[simp] theorem exec_attempt (m : EvalM α) (s : EvalState) :
    exec (attempt m) s = (.ok (exec m s).1, (exec m s).2) := rfl

@[simp] theorem exec_ofOutcome (o : Outcome α) (s : EvalState) : exec (ofOutcome o) s = (o, s) := by
  cases o <;> rfl

@[simp] theorem exec_get (s : EvalState) : exec (get : EvalM EvalState) s = (.ok s, s) := rfl

theorem exec_checkCancelled (s : EvalState) :
    exec checkCancelled s = (if s.cancelled then .error .cancelled else .ok (), s) := by
  unfold checkCancelled
  rw [exec_bind, exec_get]
  by_cases h : s.cancelled <;> simp [h]

@[simp] theorem exec_fresh (s : EvalState) :
    exec fresh s = (.ok s.fresh, { s with fresh := s.fresh + 1 }) := rfl

@[simp] theorem exec_cancel (s : EvalState) :
    exec cancel s = (.ok (), { s with cancelled := true }) := rfl

/-- A reply gives its result, in a state cancelled when it asks for it. -/
@[simp] theorem exec_ofReply (reply : Reply α) (s : EvalState) :
    exec (ofReply reply) s =
      (reply.result, if reply.cancel then { s with cancelled := true } else s) := by
  unfold ofReply
  cases reply.cancel <;> simp [exec_bind]

/-- The closing check of a guarded step gives its value back only before cancellation. -/
theorem exec_checkCancelled_pure (t : Term) (s : EvalState) :
    exec (checkCancelled >>= fun _ => pure t) s =
      (if s.cancelled then .error .cancelled else .ok t, s) := by
  rw [exec_bind, exec_checkCancelled]
  cases s.cancelled <;> rfl

/-- A guarded step started after cancellation fails with `cancelled` and changes nothing. -/
theorem exec_guarded_of_cancelled (m : EvalM Term) {s : EvalState} (h : s.cancelled = true) :
    exec (guarded m) s = (.error .cancelled, s) := by
  unfold guarded
  rw [exec_bind_of_error (by rw [exec_checkCancelled, h]; rfl)]

/-- A guarded step started before cancellation is, from its first check on, the step followed by
the closing check. -/
theorem exec_guarded_of_not_cancelled_eq (m : EvalM Term) {s : EvalState}
    (h : s.cancelled = false) :
    exec (guarded m) s = exec (m >>= fun t => checkCancelled >>= fun _ => pure t) s := by
  unfold guarded
  rw [exec_bind_of_ok (by rw [exec_checkCancelled, h]; rfl)]

/-- A guarded step started before cancellation runs as the step, unless the step returns a
value and leaves the evaluation cancelled. -/
theorem exec_guarded_of_not_cancelled (m : EvalM Term) {s : EvalState} (h : s.cancelled = false)
    (hm : ∀ t s', exec m s = (.ok t, s') → s'.cancelled = false) :
    exec (guarded m) s = exec m s := by
  rw [exec_guarded_of_not_cancelled_eq m h]
  rcases hexec : exec m s with ⟨_ | t, s'⟩
  · exact exec_bind_of_error hexec
  · rw [exec_bind_of_ok hexec, exec_checkCancelled_pure, hm t s' hexec]
    rfl

theorem exec_guarded_pure (t : Term) {s : EvalState} (h : s.cancelled = false) :
    exec (guarded (pure t)) s = (.ok t, s) := by
  rw [exec_guarded_of_not_cancelled _ h (by simp_all)]
  rfl

theorem exec_guarded_throw (e : EvalError) {s : EvalState} (h : s.cancelled = false) :
    exec (guarded (throw e)) s = (.error e, s) := by
  rw [exec_guarded_of_not_cancelled _ h (by simp)]
  rfl

/-- A guarded step that returns a value leaves the evaluation not cancelled. -/
theorem cancelled_of_exec_guarded {m : EvalM Term} {s s' : EvalState} {t : Term}
    (h : exec (guarded m) s = (.ok t, s')) : s'.cancelled = false := by
  cases hs : s.cancelled
  · rw [exec_guarded_of_not_cancelled_eq m hs] at h
    rcases hexec : exec m s with ⟨e | u, s₁⟩
    · rw [exec_bind_of_error hexec] at h
      cases h
    · -- the closing check passed, so the state it was made in is the final one
      rw [exec_bind_of_ok hexec, exec_checkCancelled_pure] at h
      cases hc : s₁.cancelled
      · simp only [hc, Bool.false_eq_true, if_false, Prod.mk.injEq] at h
        exact h.2 ▸ hc
      · simp [hc] at h
  · rw [exec_guarded_of_cancelled m hs] at h
    cases h

/-- Every value that a step returns, from any state, satisfies `P`. -/
def Yields (P : α → Prop) (m : EvalM α) : Prop :=
  ∀ s a s', exec m s = (.ok a, s') → P a

namespace Yields

variable {P Q : α → Prop} {m : EvalM α}

theorem pure {a : α} (h : P a) : Yields P (pure a) := by
  intro s b s' hrun
  simp only [exec_pure, Prod.mk.injEq, Except.ok.injEq] at hrun
  exact hrun.1 ▸ h

theorem throw (e : EvalError) : Yields P (throw e : EvalM α) := by
  intro s a s' hrun
  simp at hrun

theorem of_forall (h : ∀ a, P a) : Yields P m := fun _ a _ _ => h a

/-- Every step yields values, whatever they are. -/
theorem trivial : Yields (fun _ => True) m := of_forall fun _ => True.intro

theorem mono (hm : Yields P m) (h : ∀ a, P a → Q a) : Yields Q m :=
  fun s a s' hrun => h a (hm s a s' hrun)

theorem bind {P : β → Prop} {f : α → EvalM β} (hm : Yields Q m) (hf : ∀ a, Q a → Yields P (f a)) :
    Yields P (m >>= f) := by
  intro s b s' hrun
  rw [exec_bind] at hrun
  rcases hexec : exec m s with ⟨_ | a, s₁⟩
  · simp [hexec] at hrun
  · rw [hexec] at hrun
    exact hf a (hm s a s₁ hexec) s₁ b s' hrun

theorem ofOutcome {o : Outcome α} (h : ∀ a, o = .ok a → P a) : Yields P (ofOutcome o) := by
  intro s a s' hrun
  simp only [exec_ofOutcome, Prod.mk.injEq] at hrun
  exact h a hrun.1

theorem ofReply {r : Reply α} (h : ∀ a, r.result = .ok a → P a) : Yields P (ofReply r) := by
  intro s a s' hrun
  rw [exec_ofReply] at hrun
  exact h a (Prod.mk.inj hrun).1

/-- The outcome that `attempt` returns is a value satisfying `P`, or an error. -/
theorem attempt (hm : Yields P m) : Yields (fun o => ∀ a, o = .ok a → P a) (attempt m) := by
  intro s o s' hrun a ha
  simp only [exec_attempt, Prod.mk.injEq, Except.ok.injEq] at hrun
  obtain ⟨rfl, rfl⟩ := hrun
  exact hm s a _ (Prod.ext ha rfl)

/-- The cancellation checks around a step let its values through. -/
theorem guarded {m : EvalM Term} {P : Term → Prop} (hm : Yields P m) :
    Yields P (EvalM.guarded m) := by
  unfold EvalM.guarded
  exact bind trivial fun _ _ => bind hm fun t ht => bind trivial fun _ _ => pure ht

end Yields

end EvalM

end SparqlExpr
