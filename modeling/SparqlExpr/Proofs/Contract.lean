import SparqlExpr.Builtin.Arguments
import SparqlExpr.Proofs.Dispatch
import SparqlExpr.Proofs.WellFormed

/-!
The contract of registered computations on well-formed arguments.

A computation registered for a tuple of categories is *sound* for its operator when, on
well-formed arguments of exactly those categories, it refuses only the incomparable arguments of
a comparison (with a type mismatch naming the tuple) and otherwise either gives a well-formed
term or fails with an arithmetic error, an invalid argument or a term without effective boolean
value. An operator is sound when every registered computation is, and a registry when all its
operators and functions are.

Soundness is kept by every way of adding to a builder or a registry (`OverloadBuilder.Sound.on`,
`Registry.Sound.registerOverload`, ...), so a registry made by such steps is sound once each
step's computation is; the builder steps keep any property of the entries they add
(`OverloadBuilder.All`), and the registry steps any property of the operators they add
(`Registry.All`). For a sound operator, `Operator.Sound.applyEvaluated` gives the outcome of
dispatch on well-formed arguments of a registered tuple, and `Operator.Sound.wellFormed_of_ok`
that any result on well-formed arguments is well-formed.
-/

namespace SparqlExpr

open Builtin

/-- The names of the order relations and of the equality relations. -/
def orderNames : List String := ["<", "<=", ">", ">="]

def equalityNames : List String := ["=", "!="]

/-- The arguments a comparison refuses although their categories are registered: two
language-tagged strings whose tags differ ignoring ASCII case, for an order relation, and two
literals of unknown datatypes, or two ill-typed literals, that are not the same term, for
equality and inequality. -/
def IncomparableArguments (name : String) : List Term → Prop
  | [a, b] =>
    (name ∈ orderNames ∧ a.category = .langString ∧ b.category = .langString ∧
      ∃ p q, languageOf a = some p ∧ languageOf b = some q ∧ p.toLower ≠ q.toLower) ∨
    (name ∈ equalityNames ∧
      (a.category = .other ∧ b.category = .other ∨ a.category = .untyped ∧ b.category = .untyped) ∧
      a.wire ≠ b.wire)
  | _ => False

theorem not_incomparableArguments_of_name {name : String} (hname : name ∉ orderNames)
    (hname' : name ∉ equalityNames) (args : List Term) : ¬IncomparableArguments name args := by
  match args with
  | [a, b] => simp [IncomparableArguments, hname, hname']
  | [] | [_] | _ :: _ :: _ :: _ => simp [IncomparableArguments]

/-- An outcome a computation may give on arguments it accepts: a well-formed term, or an error
about the data (arithmetic, an invalid argument, no effective boolean value). -/
def Outcome.Sound : Outcome Term → Prop
  | .ok t => t.WellFormed
  | .error e => e.kind = .arithmetic ∨ e.kind = .invalidArgument ∨ e.kind = .notCoercible

@[simp] theorem Outcome.sound_ok (t : Term) : Outcome.Sound (.ok t) ↔ t.WellFormed :=
  Iff.rfl

theorem Outcome.sound_bind_ok {α : Type} {x : Outcome α} {f : α → Outcome Term} {a : α}
    (hx : x = .ok a) (hf : Outcome.Sound (f a)) : Outcome.Sound (x >>= f) := by
  simpa [hx] using hf

/-- The contract of a computation registered under `key` for the operator `name`. -/
structure SoundComputation (name : String) (key : List Category) (compute : Computation) :
    Prop where
  /-- Incomparable arguments are refused by a type mismatch naming their categories. -/
  incomparable : ∀ fresh args, (∀ t ∈ args, t.WellFormed) → args.map Term.category = key →
    IncomparableArguments name args → compute fresh args = .error (.typeMismatch name key)
  /-- Any other arguments get a sound outcome. -/
  sound : ∀ fresh args, (∀ t ∈ args, t.WellFormed) → args.map Term.category = key →
    ¬IncomparableArguments name args → Outcome.Sound (compute fresh args)

/-- A computation that refuses nothing and whose outcome is always sound keeps the contract
of an operator that is no comparison. -/
theorem SoundComputation.of_sound {name : String} {key : List Category} {compute : Computation}
    (hname : name ∉ orderNames) (hname' : name ∉ equalityNames)
    (h : ∀ fresh args, (∀ t ∈ args, t.WellFormed) → args.map Term.category = key →
      Outcome.Sound (compute fresh args)) :
    SoundComputation name key compute where
  incomparable _ args _ _ hinc :=
    absurd hinc (not_incomparableArguments_of_name hname hname' args)
  sound fresh args hwf hkey _ := h fresh args hwf hkey

/-- A computation of one argument keeps the contract when its function does on well-formed
arguments of the category. -/
theorem sound_unary (name : String) (c : Category) (f : Term → Outcome Term)
    (hf : ∀ a, a.WellFormed → a.category = c → Outcome.Sound (f a)) :
    SoundComputation name [c] (unary name f) where
  incomparable fresh args _ hkey hinc := by
    obtain ⟨a, rfl, -⟩ := List.map_eq_singleton_iff.mp hkey
    simp [IncomparableArguments] at hinc
  sound fresh args hwf hkey _ := by
    obtain ⟨a, rfl, ha⟩ := List.map_eq_singleton_iff.mp hkey
    exact hf a (hwf a (List.mem_singleton_self a)) ha

theorem map_category_eq_pair {args : List Term} {c d : Category}
    (h : args.map Term.category = [c, d]) :
    ∃ a b, args = [a, b] ∧ a.category = c ∧ b.category = d := by
  match args, h with
  | [a, b], h => simpa using h

/-- A computation of two arguments of an operator that is no comparison keeps the contract
when its function does on well-formed arguments of the two categories. -/
theorem sound_binary (name : String) (hname : name ∉ orderNames) (hname' : name ∉ equalityNames)
    (c d : Category) (f : Term → Term → Outcome Term)
    (hf : ∀ a b, a.WellFormed → b.WellFormed → a.category = c → b.category = d →
      Outcome.Sound (f a b)) :
    SoundComputation name [c, d] (binary name f) :=
  SoundComputation.of_sound hname hname' fun fresh args hwf hkey => by
    obtain ⟨a, b, rfl, ha, hb⟩ := map_category_eq_pair hkey
    exact hf a b (hwf a (by simp)) (hwf b (by simp)) ha hb

namespace OverloadBuilder

/-- Every entry of the builder, a tuple of categories with its computation, satisfies `P`. -/
def All (P : List Category → Computation → Prop) (b : OverloadBuilder) : Prop :=
  ∀ entry ∈ b.entries, P entry.1 entry.2

namespace All

variable {P : List Category → Computation → Prop} {b : OverloadBuilder}

theorem new (name : String) (arity : Nat) : (OverloadBuilder.new name arity).All P := by
  intro entry hentry
  simp [OverloadBuilder.new] at hentry

theorem on (hb : b.All P) {key : List Category} {compute : Computation} (hf : P key compute) :
    (b.on key compute).All P := by
  intro entry hentry
  simp only [OverloadBuilder.on, List.mem_append, List.mem_singleton] at hentry
  rcases hentry with hentry | rfl
  · exact hb entry hentry
  · exact hf

/-- `onEach` adds the tuples of `categoryTuples` and nothing else. -/
theorem onEach (hb : b.All P) {positions : List (List Category)} {compute : Computation}
    (hf : ∀ key ∈ categoryTuples positions, P key compute) :
    (b.onEach positions compute).All P := by
  intro entry hentry
  simp only [OverloadBuilder.onEach, List.mem_append, List.mem_map] at hentry
  rcases hentry with hentry | ⟨key, hkey, rfl⟩
  · exact hb entry hentry
  · exact hf key hkey

end All

/-- Every entry of the builder keeps the contract of its operator. -/
def Sound (b : OverloadBuilder) : Prop :=
  ∀ entry ∈ b.entries, SoundComputation b.name entry.1 entry.2

-- `on` and `onEach` keep the name, so a sound builder is one whose entries all satisfy the
-- contract of that one name.
theorem Sound.new (name : String) (arity : Nat) : (OverloadBuilder.new name arity).Sound :=
  All.new (P := SoundComputation name) name arity

theorem Sound.on {b : OverloadBuilder} (hb : b.Sound) {key : List Category}
    {compute : Computation} (hf : SoundComputation b.name key compute) :
    (b.on key compute).Sound :=
  All.on (P := SoundComputation b.name) hb hf

theorem Sound.onEach {b : OverloadBuilder} (hb : b.Sound) {positions : List (List Category)}
    {compute : Computation}
    (hf : ∀ key ∈ categoryTuples positions, SoundComputation b.name key compute) :
    (b.onEach positions compute).Sound :=
  All.onEach (P := SoundComputation b.name) hb hf

/-- Adding one signature per element of a list keeps soundness when each signature's
computation keeps the contract. -/
theorem Sound.foldl_on {α : Type} (xs : List α) (key : α → List Category) (compute : Computation) :
    ∀ {b : OverloadBuilder}, b.Sound → (∀ x ∈ xs, SoundComputation b.name (key x) compute) →
      (xs.foldl (fun b x => b.on (key x) compute) b).Sound := by
  induction xs with
  | nil => intro b hb _; exact hb
  | cons x rest ih =>
      intro b hb hf
      exact ih (hb.on (hf x List.mem_cons_self)) fun y hy => hf y (List.mem_cons_of_mem x hy)

end OverloadBuilder

namespace Operator

/-- Every computation of a fixed or overloaded operator keeps the contract on its tuple, and
the tuples of an overload table have its arity. -/
def Sound : Operator → Prop
  | fixed op => SoundComputation op.name op.signature op.compute
  | overloaded op =>
    ∀ entry ∈ op.table, entry.1.length = op.arity ∧ SoundComputation op.name entry.1 entry.2
  | special _ => True

/-- The tuples of categories an operator has a computation for. -/
def Accepts : Operator → List Category → Prop
  | fixed op, key => key = op.signature
  | overloaded op, key => key ∈ op.signatures
  | special _, _ => False

theorem sound_of_build {b : OverloadBuilder} (hb : b.Sound) {op : OverloadOperator}
    (hop : b.build = .ok op) : (overloaded op).Sound := by
  have hok := (OverloadBuilder.build_isOk_iff b).1.mp ⟨op, hop⟩
  rw [(OverloadBuilder.build_isOk_iff b).2 hok.1 hok.2] at hop
  cases hop
  intro entry hentry
  exact ⟨hok.1 entry hentry, hb entry hentry⟩

theorem OverloadOperator.mem_of_lookup {op : OverloadOperator} {key : List Category}
    {compute : Computation} (h : op.lookup key = some compute) : (key, compute) ∈ op.table := by
  simp only [OverloadOperator.lookup, Option.map_eq_some_iff] at h
  obtain ⟨entry, hfind, rfl⟩ := h
  have hkey : entry.1 = key := by simpa using List.find?_some hfind
  rw [← hkey]
  exact List.mem_of_find?_eq_some hfind

variable {op : Operator} {fresh : Nat} {args : List Term}

/-- A sound operator, on well-formed arguments of a tuple it accepts, refuses exactly the
incomparable arguments, by a type mismatch naming their categories, and otherwise has a sound
outcome. -/
theorem Sound.applyEvaluated (hop : op.Sound) (hwf : ∀ t ∈ args, t.WellFormed)
    (hkey : op.Accepts (args.map Term.category)) :
    (IncomparableArguments op.name args →
      op.applyEvaluated fresh args = .error (.typeMismatch op.name (args.map Term.category))) ∧
    (¬IncomparableArguments op.name args → Outcome.Sound (op.applyEvaluated fresh args)) := by
  cases op with
  | fixed f =>
      have happly : f.apply fresh args = f.compute fresh args := by
        have hlen : args.length = f.signature.length := by
          simpa using congrArg List.length hkey
        simp [FixedOperator.apply, FixedOperator.arity, checkArity_exactly, hlen,
          show args.map Term.category = f.signature from hkey]
      simp only [Accepts] at hkey
      simp only [name, Operator.applyEvaluated, happly, hkey]
      exact ⟨hop.incomparable fresh args hwf hkey, hop.sound fresh args hwf hkey⟩
  | overloaded o =>
      simp only [Accepts, OverloadOperator.signatures, List.mem_map] at hkey
      obtain ⟨entry, hentry, hentryKey⟩ := hkey
      obtain ⟨hlen, -⟩ := hop entry hentry
      have harity : args.length = o.arity := by
        rw [← hlen, hentryKey, List.length_map]
      have hsome : (o.lookup (args.map Term.category)).isSome := by
        simp only [OverloadOperator.lookup, Option.isSome_map, List.find?_isSome, beq_iff_eq]
        exact ⟨entry, hentry, hentryKey⟩
      obtain ⟨compute, hcompute⟩ := Option.isSome_iff_exists.mp hsome
      have hmem := OverloadOperator.mem_of_lookup hcompute
      have hsound := (hop _ hmem).2
      have happly : o.apply fresh args = compute fresh args := by
        simp [OverloadOperator.apply, checkArity_exactly, harity, hcompute]
      simp only [name, Operator.applyEvaluated, happly]
      exact ⟨hsound.incomparable fresh args hwf rfl, hsound.sound fresh args hwf rfl⟩
  | special form => simp [Accepts] at hkey

/-- A result of a sound operator on well-formed arguments is well-formed. -/
theorem Sound.wellFormed_of_ok (hop : op.Sound) (hwf : ∀ t ∈ args, t.WellFormed) {t : Term}
    (h : op.applyEvaluated fresh args = .ok t) : t.WellFormed := by
  have hkey : op.Accepts (args.map Term.category) := by
    cases op with
    | fixed f =>
        simp only [Operator.applyEvaluated, FixedOperator.apply, FixedOperator.arity,
          checkArity_exactly] at h
        split at h
        · split at h
          · simpa [Accepts] using (beq_iff_eq.mp ‹_›)
          · cases h
        · cases h
    | overloaded o =>
        simp only [Operator.applyEvaluated, OverloadOperator.apply, checkArity_exactly] at h
        split at h
        · simp only [Outcome.ok_bind] at h
          split at h
          · rename_i compute hcompute
            have hmem := OverloadOperator.mem_of_lookup hcompute
            exact List.mem_map.mpr ⟨_, hmem, rfl⟩
          · cases h
        · cases h
    | special form => simp [Operator.applyEvaluated] at h
  by_cases hinc : IncomparableArguments op.name args
  · rw [(hop.applyEvaluated hwf hkey).1 hinc] at h
    cases h
  · have hsound : Outcome.Sound (op.applyEvaluated fresh args) :=
      (hop.applyEvaluated hwf hkey).2 hinc
    rw [h] at hsound
    exact hsound

end Operator

/-- Every operator and every function of the registry is sound. -/
def Registry.Sound (r : Registry) : Prop :=
  (∀ entry ∈ r.operators, entry.2.Sound) ∧ ∀ entry ∈ r.functions, entry.2.Sound

theorem mem_assocInsert {α : Type} {entries : List (String × α)} {key : String} {value : α}
    {entry : String × α} (h : entry ∈ assocInsert entries key value) :
    entry ∈ entries ∨ entry = (key, value) := by
  unfold assocInsert at h
  split at h
  · obtain ⟨old, hold, rfl⟩ := List.mem_map.mp h
    split
    · exact Or.inr rfl
    · exact Or.inl hold
  · simpa using h

theorem mem_of_assocFind? {α : Type} {entries : List (String × α)} {key : String} {value : α}
    (h : assocFind? entries key = some value) : (key, value) ∈ entries := by
  simp only [assocFind?, Option.map_eq_some_iff] at h
  obtain ⟨entry, hfind, rfl⟩ := h
  have hkey : entry.1 = key := by simpa using List.find?_some hfind
  rw [← hkey]
  exact List.mem_of_find?_eq_some hfind

/-- Every operator and every function of a registry satisfies `P`. -/
def Registry.All (P : Operator → Prop) (r : Registry) : Prop :=
  (∀ entry ∈ r.operators, P entry.2) ∧ ∀ entry ∈ r.functions, P entry.2

namespace Registry.All

variable {P : Operator → Prop} {r : Registry}

theorem empty : Registry.empty.All P := by
  simp [Registry.All, Registry.empty]

theorem register (hr : r.All P) {op : Operator} (hop : P op) : (r.register op).All P := by
  refine ⟨fun entry hentry => ?_, hr.2⟩
  rcases mem_assocInsert hentry with hentry | rfl
  · exact hr.1 entry hentry
  · exact hop

theorem registerFunction (hr : r.All P) (iri : String) {op : Operator} (hop : P op) :
    (r.registerFunction iri op).All P := by
  refine ⟨hr.1, fun entry hentry => ?_⟩
  rcases mem_assocInsert hentry with hentry | rfl
  · exact hr.2 entry hentry
  · exact hop

theorem registerOverload (hr : r.All P) {b : OverloadBuilder}
    (hb : ∀ op, b.build = .ok op → P (.overloaded op)) : (r.registerOverload b).All P := by
  unfold Registry.registerOverload
  split
  · exact hr.register (hb _ ‹_›)
  · exact hr

theorem addAlias (hr : r.All P) {other target : String} {r' : Registry}
    (h : r.addAlias other target = .ok r') : r'.All P := by
  simp only [Registry.addAlias, Registry.resolve] at h
  split at h
  · rename_i op hget
    simp only [Outcome.ok_bind, Outcome.pure_eq_ok, Except.ok.injEq] at h
    subst h
    refine ⟨fun entry hentry => ?_, hr.2⟩
    rcases mem_assocInsert hentry with hentry | rfl
    · exact hr.1 entry hentry
    · have hfind : assocFind? r.operators target.toLower = some op := hget
      exact hr.1 (target.toLower, op) (mem_of_assocFind? hfind)
  · cases h

end Registry.All

namespace Registry.Sound

variable {r : Registry}

theorem empty : Registry.empty.Sound := Registry.All.empty

theorem register (hr : r.Sound) {op : Operator} (hop : op.Sound) : (r.register op).Sound :=
  Registry.All.register hr hop

theorem registerFunction (hr : r.Sound) (iri : String) {op : Operator} (hop : op.Sound) :
    (r.registerFunction iri op).Sound :=
  Registry.All.registerFunction hr iri hop

theorem registerOverload (hr : r.Sound) {b : OverloadBuilder} (hb : b.Sound) :
    (r.registerOverload b).Sound :=
  Registry.All.registerOverload hr fun _ => Operator.sound_of_build hb

theorem addAlias (hr : r.Sound) {other target : String} {r' : Registry}
    (h : r.addAlias other target = .ok r') : r'.Sound :=
  Registry.All.addAlias hr h

end Registry.Sound

end SparqlExpr
