import SparqlExpr.Builtin.Library
import SparqlExpr.Proofs.Comparison

/-!
The built-in operators and cast functions keep the contract of registered computations.

Each computation reads its arguments back (`numericArg`, `lexicalArg`, `booleanOf`, the temporal
patterns) behind a type mismatch of its own; on well-formed arguments of a registered tuple these
reads always succeed, so the only failures left are about the data, and the only type mismatches
left are the refusals of the comparisons. Every registration step of `Registry.builtins` keeps
the contract (`sound_builtins`), from which the main statement follows:

* `builtin_dispatch_safety`: on well-formed arguments of a tuple it registers, a built-in
  operator or cast function fails only with an arithmetic error, an invalid argument, a term
  without effective boolean value or a type mismatch, and with a type mismatch exactly when a
  comparison is given incomparable arguments.
-/

namespace SparqlExpr

open Builtin

section Arguments

variable {t : Term}

theorem numericArg_eq_ok (name : String) (ht : t.WellFormed) (hc : t.category ∈ Category.numeric) :
    ∃ n, numericArg name t = .ok n := by
  obtain ⟨n, hn⟩ := ht.exists_numeric hc
  exact ⟨n, by simp [numericArg, hn]⟩

theorem lexicalArg_eq_ok (name : String) (hc : t.category ∉ [.blankNode, .var]) :
    ∃ s, lexicalArg name t = .ok s := by
  cases t with
  | literal l => exact ⟨_, rfl⟩
  | illTyped lexical => exact ⟨_, rfl⟩
  | namedNode iri => exact ⟨_, rfl⟩
  | blankNode => simp [Term.category] at hc
  | var => simp [Term.category] at hc

theorem lexicalArg_eq_ok_of_mem (name : String) {sources : List Category}
    (hsources : Category.blankNode ∉ sources ∧ Category.var ∉ sources)
    (hc : t.category ∈ sources) : ∃ s, lexicalArg name t = .ok s := by
  refine lexicalArg_eq_ok name ?_
  intro hmem
  simp only [List.mem_cons, List.not_mem_nil, or_false] at hmem
  rcases hmem with h | h <;> rw [h] at hc
  · exact hsources.1 hc
  · exact hsources.2 hc

theorem booleanOf_eq_ok (cast : String) (ht : t.WellFormed) (hc : t.category = .boolean) :
    ∃ b, booleanOf cast t = .ok b := by
  obtain ⟨⟨value, lexical, datatype, language⟩, b, rfl, hv⟩ := ht.exists_boolean hc
  subst hv
  exact ⟨b, rfl⟩

/-- The effective boolean value fails only for want of one. -/
theorem Literal.ebv_eq_error {l : Literal} {e : EvalError} (h : l.ebv = .error e) :
    e = .notCoercible l.category := by
  unfold Literal.ebv at h
  split at h
  case h_1 | h_2 | h_3 | h_4 | h_5 =>
    -- a number or a boolean literal without a value of its kind
    split at h
    · cases h
    · exact (Except.error.inj h).symm
  case h_6 | h_7 => cases h
  case h_8 => exact (Except.error.inj h).symm

theorem Term.kind_of_ebv_eq_error {e : EvalError} (h : t.ebv = .error e) :
    e.kind = .notCoercible := by
  cases t with
  | literal l => rw [Literal.ebv_eq_error h]; rfl
  | _ =>
      simp only [Term.ebv, Except.error.injEq] at h
      subst h
      rfl

theorem wellFormed_like (source : Term) (value : String) : (like source value).WellFormed := by
  unfold like
  split
  · exact Literal.wellFormed_langString _ _
  · exact Term.wellFormed_string _

end Arguments

/-- An overloaded operator of one argument keeps the contract when its function does on
well-formed arguments of its source categories. -/
theorem sound_unaryOver (name : String) (sources : List Category) (f : Term → Outcome Term)
    (hf : ∀ a, a.WellFormed → a.category ∈ sources → Outcome.Sound (f a)) :
    (unaryOver name sources f).Sound := by
  refine (OverloadBuilder.Sound.new name 1).onEach fun key hkey => ?_
  obtain ⟨c, rfl, hc⟩ := mem_categoryTuples_single.mp hkey
  exact sound_unary name c f fun a ha hac => hf a ha (hac ▸ hc)

section Arithmetic

theorem ArithmeticOp.symbol_not_mem_orderNames (op : ArithmeticOp) : op.symbol ∉ orderNames := by
  cases op <;> decide

theorem ArithmeticOp.symbol_not_mem_equalityNames (op : ArithmeticOp) :
    op.symbol ∉ equalityNames := by
  cases op <;> decide

/-- An arithmetic operator computes on every pair of numerics, failing only arithmetically. -/
theorem sound_arithmetic (op : ArithmeticOp) : (arithmetic op).Sound := by
  refine (OverloadBuilder.Sound.new op.symbol 2).onEach fun key hkey => ?_
  obtain ⟨c, d, rfl, hc, hd⟩ := mem_categoryTuples_pair.mp hkey
  refine sound_binary _ op.symbol_not_mem_orderNames op.symbol_not_mem_equalityNames c d _
    fun a b ha hb hac hbd => ?_
  obtain ⟨x, hx⟩ := numericArg_eq_ok op.symbol ha (hac ▸ hc)
  obtain ⟨y, hy⟩ := numericArg_eq_ok op.symbol hb (hbd ▸ hd)
  cases happly : op.apply x y with
  | ok n => simp [hx, hy, happly, Literal.wellFormed_ofNumeric]
  | error fault => simp [hx, hy, happly, Outcome.Sound, EvalError.kind]

theorem sound_numericFunction (name : String) (f : Numeric → Numeric) :
    (numericFunction name f).Sound :=
  sound_unaryOver _ _ _ fun a ha hc => by
    obtain ⟨n, hn⟩ := numericArg_eq_ok name ha hc
    simp [hn, Literal.wellFormed_ofNumeric]

theorem sound_registerArithmetic {r : Registry} (hr : r.Sound) :
    (registerArithmetic r).Sound := by
  unfold registerArithmetic
  refine List.foldlRecOn _ _ ?_ fun _ hr entry _ => hr.registerOverload
    (sound_numericFunction entry.1 entry.2)
  exact List.foldlRecOn _ _ hr fun _ hr op _ => hr.registerOverload (sound_arithmetic op)

end Arithmetic

theorem sound_registerComparison {r : Registry} (hr : r.Sound) :
    (registerComparison r).Sound :=
  List.foldlRecOn _ _ hr fun _ hr rel _ => hr.registerOverload (sound_comparison rel)

theorem sound_registerSpecialForms {r : Registry} (hr : r.Sound) :
    (registerSpecialForms r).Sound :=
  List.foldlRecOn _ _ hr fun _ hr _ _ => hr.register trivial

section Strings

theorem sound_caseMapping (name : String) (map : String → String) :
    (caseMapping name map).Sound :=
  sound_unaryOver _ _ _ fun a _ hc => by
    obtain ⟨s, hs⟩ := lexicalArg_eq_ok_of_mem name (by decide) hc
    simp [hs, wellFormed_like]

/-- A substring test refuses language tags that differ and otherwise answers. -/
theorem sound_substringTest (name : String) (hname : name ∉ orderNames)
    (hname' : name ∉ equalityNames) (test : String → String → Bool) :
    (substringTest name test).Sound := by
  refine OverloadBuilder.Sound.foldl_on _ id _ (OverloadBuilder.Sound.new name 2) ?_
  intro pair hpair
  have hstrings : ∀ c ∈ pair, c ∈ Category.strings := by
    simp only [substringPairs, List.mem_cons, List.not_mem_nil, or_false] at hpair
    rcases hpair with rfl | rfl | rfl <;> decide
  obtain ⟨c, d, rfl⟩ : ∃ c d, pair = [c, d] := by
    simp only [substringPairs, List.mem_cons, List.not_mem_nil, or_false] at hpair
    rcases hpair with rfl | rfl | rfl <;> exact ⟨_, _, rfl⟩
  refine sound_binary name hname hname' c d _ fun a b _ _ hac hbd => ?_
  obtain ⟨s, hs⟩ := lexicalArg_eq_ok_of_mem name (by decide) (hac ▸ hstrings c (by simp))
  obtain ⟨s', hs'⟩ := lexicalArg_eq_ok_of_mem name (by decide) (hbd ▸ hstrings d (by simp))
  cases hla : languageOf a <;> cases hlb : languageOf b
  all_goals simp only [hs, hs', Outcome.ok_bind, Outcome.pure_eq_ok]
  · exact Term.wellFormed_boolean _
  · exact Term.wellFormed_boolean _
  · exact Term.wellFormed_boolean _
  · split
    · simp [Outcome.Sound, EvalError.kind]
    · exact Term.wellFormed_boolean _

theorem sound_registerStrings {r : Registry} (hr : r.Sound) : (registerStrings r).Sound := by
  have hstrlen : (unaryOver "strlen" Category.strings fun t => do
      pure (Term.integer (← lexicalArg "strlen" t).length)).Sound :=
    sound_unaryOver _ _ _ fun a _ hc => by
      obtain ⟨s, hs⟩ := lexicalArg_eq_ok_of_mem "strlen" (by decide) hc
      simp [hs, Term.wellFormed_integer]
  exact ((((((hr.registerOverload hstrlen).registerOverload (sound_caseMapping _ _)).registerOverload
    (sound_caseMapping _ _)).registerOverload
    (sound_substringTest _ (by decide) (by decide) _)).registerOverload
    (sound_substringTest _ (by decide) (by decide) _)).registerOverload
    (sound_substringTest _ (by decide) (by decide) _))

end Strings

section TermFunctions

variable {t : Term}

/-- A computation that reads the lexical form of its argument first keeps the contract when
what it does with any text does. -/
theorem sound_lexicalArg_bind (name : String) {sources : List Category}
    (hsources : Category.blankNode ∉ sources ∧ Category.var ∉ sources) (hc : t.category ∈ sources)
    {f : String → Outcome Term} (hf : ∀ s, Outcome.Sound (f s)) :
    Outcome.Sound (lexicalArg name t >>= f) := by
  obtain ⟨s, hs⟩ := lexicalArg_eq_ok_of_mem name hsources hc
  exact Outcome.sound_bind_ok hs (hf s)

theorem sound_termTest (name : String) (test : Term → Bool) : (termTest name test).Sound :=
  sound_unaryOver _ _ _ fun _ _ _ => Term.wellFormed_boolean _

/-- The computations of `strlang`, `strdt` and `langmatches` read two texts. -/
theorem sound_lexicalArg_pair (name : String) (hname : name ∉ orderNames)
    (hname' : name ∉ equalityNames) {c d : Category} (hc : c ∈ [.string, .namedNode])
    (hd : d ∈ [.string, .namedNode]) {f : String → String → Outcome Term}
    (hf : ∀ s s', Outcome.Sound (f s s')) :
    SoundComputation name [c, d] (binary name fun a b => do
      let s ← lexicalArg name a
      f s (← lexicalArg name b)) :=
  sound_binary name hname hname' c d _ fun a b _ _ hac hbd => by
    obtain ⟨s, hs⟩ := lexicalArg_eq_ok_of_mem name (by decide) (hac ▸ hc)
    obtain ⟨s', hs'⟩ := lexicalArg_eq_ok_of_mem name (by decide) (hbd ▸ hd)
    simpa [hs, hs'] using hf s s'

theorem sound_registerTermFunctions {r r' : Registry} (hr : r.Sound)
    (h : registerTermFunctions r = .ok r') : r'.Sound := by
  unfold registerTermFunctions at h
  obtain ⟨r₁, h₁, h₂⟩ := Outcome.bind_eq_ok_iff.mp h
  have hr₁ : r₁.Sound := Registry.Sound.addAlias ((((hr.registerOverload ?str).registerOverload
    ?lang).registerOverload ?datatype).registerOverload (sound_termTest _ _)) h₁
  case str =>
    refine (sound_unaryOver _ _ _ fun a _ hc => ?_).onEach fun key hkey => ?_
    · exact sound_lexicalArg_bind _ (by decide) hc fun s => Term.wellFormed_string s
    · obtain ⟨c, rfl, hc⟩ := mem_categoryTuples_single.mp hkey
      exact sound_unary _ _ _ fun a _ hac =>
        sound_lexicalArg_bind _ (by decide) (hac ▸ hc) fun s => Term.wellFormed_string s
  case lang => exact sound_unaryOver _ _ _ fun _ _ _ => Term.wellFormed_string _
  case datatype =>
    -- a literal category excludes the nodes, the only terms without a datatype
    refine sound_unaryOver _ _ _ fun a _ hc => ?_
    cases a with
    | literal l => exact Term.wellFormed_namedNode l.datatype
    | illTyped lexical datatype => exact Term.wellFormed_namedNode datatype
    | _ => simp [Term.category, Category.literals] at hc
  refine Registry.Sound.addAlias ((((((((((hr₁.registerOverload (sound_termTest _ _)).registerOverload
    (sound_termTest _ _)).registerOverload (sound_termTest _ _)).registerOverload
    ?sameterm).registerOverload ?negation).register ?bnode).register ?strlang).register
    ?strdt).register ?langmatches).register ?iri) h₂
  case sameterm =>
    refine (OverloadBuilder.Sound.new _ 2).onEach fun key hkey => ?_
    obtain ⟨c, d, rfl, -, -⟩ := mem_categoryTuples_pair.mp hkey
    exact sound_binary _ (by decide) (by decide) c d _ fun _ _ _ _ _ _ => Term.wellFormed_boolean _
  case negation =>
    refine sound_unaryOver _ _ _ fun a _ _ => ?_
    cases hebv : a.ebv with
    | ok b => simp [Term.wellFormed_boolean]
    | error e => simp [Outcome.Sound, Term.kind_of_ebv_eq_error hebv]
  case bnode =>
    exact SoundComputation.of_sound (by decide) (by decide) fun fresh _ _ _ =>
      Term.wellFormed_blankNode (freshLabel fresh)
  case strlang =>
    refine sound_lexicalArg_pair _ (by decide) (by decide) (by simp) (by simp) fun s lang => ?_
    split
    · simp [Outcome.Sound, EvalError.kind]
    · exact Literal.wellFormed_langString _ _
  case strdt =>
    refine sound_lexicalArg_pair _ (by decide) (by decide) (by simp) (by simp) fun s datatype => ?_
    split
    · simp [Outcome.Sound, EvalError.kind]
    · exact Term.wellFormed_typed _ _
  case langmatches =>
    exact sound_lexicalArg_pair _ (by decide) (by decide) (by simp) (by simp) fun _ _ => Term.wellFormed_boolean _
  case iri =>
    exact sound_unary _ _ _ fun a _ hac =>
      sound_lexicalArg_bind _ (by decide) (show a.category ∈ [Category.string] by simp [hac]) fun s =>
        Term.wellFormed_namedNode s

end TermFunctions

section Casts

variable {t : Term}

theorem sound_cast (datatype : String) (sources : List Category) (f : Term → Outcome Term)
    (hf : ∀ a, a.WellFormed → a.category ∈ sources → Outcome.Sound (f a)) :
    (Builtin.cast datatype sources f).Sound := by
  unfold Builtin.cast
  split
  · rename_i op hop
    exact Operator.sound_of_build (sound_unaryOver _ _ _ hf) hop
  · intro entry hentry
    simp at hentry

/-- Reading a string under a datatype gives a literal of that datatype whose value was read for
it, or an invalid argument. -/
theorem sound_parseAs (hc : t.category = .string) (datatype : String) :
    Outcome.Sound (parseAs t datatype) := by
  obtain ⟨s, hs⟩ := lexicalArg_eq_ok datatype (t := t) (by simp [hc])
  simp only [parseAs, hs, Outcome.ok_bind]
  split
  · rename_i l hl
    obtain ⟨hdatatype, hlanguage, hwf⟩ := Term.typed_eq_literal hl
    show Literal.category _ = _
    rw [Literal.category_mk, ← hdatatype, ← hlanguage]
    exact hwf
  · simp [Outcome.Sound, EvalError.kind]

theorem mem_numeric_of_mem_scalarSources {c : Category} (hc : c ∈ scalarSources)
    (hs : c ≠ .string) (hb : c ≠ .boolean) : c ∈ Category.numeric := by
  simp only [scalarSources, List.mem_cons, List.not_mem_nil, or_false] at hc
  rcases hc with rfl | rfl | rfl | rfl | rfl | rfl <;> simp_all [Category.numeric]

theorem sound_castToString (a : Term) (_ : a.WellFormed) (hc : a.category ∈ toStringSources) :
    Outcome.Sound (castToString a) :=
  sound_lexicalArg_bind _ (by decide) hc fun s => Term.wellFormed_string s

theorem sound_castToBoolean (a : Term) (ha : a.WellFormed) (hc : a.category ∈ scalarSources) :
    Outcome.Sound (castToBoolean a) := by
  unfold castToBoolean
  split
  · exact sound_parseAs ‹_› _
  · obtain ⟨b, hb⟩ := booleanOf_eq_ok Vocabulary.xsdBoolean ha ‹_›
    simp [hb, Term.wellFormed_boolean]
  · obtain ⟨n, hn⟩ := numericArg_eq_ok Vocabulary.xsdBoolean ha
      (mem_numeric_of_mem_scalarSources hc ‹_› ‹_›)
    simp [hn, Term.wellFormed_boolean]

theorem sound_castToInteger (a : Term) (ha : a.WellFormed) (hc : a.category ∈ scalarSources) :
    Outcome.Sound (castToInteger a) := by
  unfold castToInteger
  split
  · exact sound_parseAs ‹_› _
  · obtain ⟨b, hb⟩ := booleanOf_eq_ok Vocabulary.xsdInteger ha ‹_›
    simp [hb, Term.wellFormed_integer]
  · obtain ⟨n, hn⟩ := numericArg_eq_ok Vocabulary.xsdInteger ha
      (mem_numeric_of_mem_scalarSources hc ‹_› ‹_›)
    simp only [hn, Outcome.ok_bind]
    split
    · simp [Term.wellFormed_integer]
    · simp [Term.wellFormed_integer]
    · -- a float without an integer part is the one failure left
      split
      · simp [Term.wellFormed_integer]
      · simp [Outcome.Sound, cannotCast, EvalError.kind]

theorem sound_castToDecimal (a : Term) (ha : a.WellFormed) (hc : a.category ∈ scalarSources) :
    Outcome.Sound (castToDecimal a) := by
  unfold castToDecimal
  split
  · exact sound_parseAs ‹_› _
  · obtain ⟨b, hb⟩ := booleanOf_eq_ok Vocabulary.xsdDecimal ha ‹_›
    simp [hb, Literal.wellFormed_decimal]
  · obtain ⟨n, hn⟩ := numericArg_eq_ok Vocabulary.xsdDecimal ha
      (mem_numeric_of_mem_scalarSources hc ‹_› ‹_›)
    simp only [hn, Outcome.ok_bind]
    split
    · exact Literal.wellFormed_decimal _
    · simp [Outcome.Sound, cannotCast, EvalError.kind]

theorem doubleOf_eq_ok (cast : String) {a : Term} (ha : a.WellFormed)
    (hc : a.category ∈ scalarSources) (hs : a.category ≠ .string) :
    ∃ x, doubleOf cast a = .ok x := by
  unfold doubleOf
  by_cases hb : a.category = .boolean
  · obtain ⟨b, hb'⟩ := booleanOf_eq_ok cast ha hb
    exact ⟨if b then 1 else 0, by simp [hb, hb']⟩
  · obtain ⟨n, hn⟩ := numericArg_eq_ok cast ha (mem_numeric_of_mem_scalarSources hc hs hb)
    exact ⟨n.toDouble, by simp [hb, hn]⟩

theorem sound_castToFloat (a : Term) (ha : a.WellFormed) (hc : a.category ∈ scalarSources) :
    Outcome.Sound (castToFloat a) := by
  unfold castToFloat
  split
  · exact sound_parseAs (beq_iff_eq.mp ‹_›) _
  · rename_i hs
    obtain ⟨x, hx⟩ := doubleOf_eq_ok Vocabulary.xsdFloat ha hc (by simpa using hs)
    simp [hx, Literal.wellFormed_float]

theorem sound_castToDouble (a : Term) (ha : a.WellFormed) (hc : a.category ∈ scalarSources) :
    Outcome.Sound (castToDouble a) := by
  unfold castToDouble
  split
  · exact sound_parseAs (beq_iff_eq.mp ‹_›) _
  · rename_i hs
    obtain ⟨x, hx⟩ := doubleOf_eq_ok Vocabulary.xsdDouble ha hc (by simpa using hs)
    simp [hx, Literal.wellFormed_double]

theorem sound_castToDateTime (a : Term) (ha : a.WellFormed)
    (hc : a.category ∈ [.dateTime, .string]) : Outcome.Sound (castToDateTime a) := by
  unfold castToDateTime
  split
  · exact Literal.wellFormed_dateTime _
  · rename_i hnot
    -- a well-formed dateTime literal has a dateTime value, so only strings are read
    refine sound_parseAs ?_ _
    simp only [List.mem_cons, List.not_mem_nil, or_false] at hc
    rcases hc with hc | hc
    · obtain ⟨⟨value, lexical, datatype, language⟩, d, rfl, hv⟩ := ha.exists_dateTime hc
      subst hv
      exact absurd rfl (hnot d lexical datatype language)
    · exact hc

theorem sound_registerCasts {r : Registry} (hr : r.Sound) : (registerCasts r).Sound :=
  ((((((hr.registerFunction _ (sound_cast _ _ _ sound_castToString)).registerFunction _
    (sound_cast _ _ _ sound_castToBoolean)).registerFunction _
    (sound_cast _ _ _ sound_castToInteger)).registerFunction _
    (sound_cast _ _ _ sound_castToDecimal)).registerFunction _
    (sound_cast _ _ _ sound_castToFloat)).registerFunction _
    (sound_cast _ _ _ sound_castToDouble)).registerFunction _
    (sound_cast _ _ _ sound_castToDateTime)

end Casts

section DateParts

open DatePart

/-- A component is read from every well-formed temporal value that has it. -/
theorem sound_extract (part : DatePart) {a : Term} (ha : a.WellFormed)
    (hc : a.category ∈ part.sources) : Outcome.Sound (part.extract a) := by
  have hcases : a.category = .dateTime ∨ a.category = .date ∨ a.category = .time := by
    cases part <;> simp only [sources, List.mem_cons, List.not_mem_nil, or_false] at hc <;> tauto
  rcases hcases with h | h | h
  · obtain ⟨⟨value, lexical, datatype, language⟩, d, rfl, hv⟩ := ha.exists_dateTime h
    subst hv
    cases part <;> simp [extract, ofDate, ofClock, secondsValue, Term.wellFormed_integer,
      Literal.wellFormed_decimal]
  · obtain ⟨⟨value, lexical, datatype, language⟩, d, rfl, hv⟩ := ha.exists_date h
    subst hv
    cases part <;> simp_all [sources, extract, ofDate, Term.wellFormed_integer]
  · obtain ⟨⟨value, lexical, datatype, language⟩, d, rfl, hv⟩ := ha.exists_time h
    subst hv
    cases part <;> simp_all [sources, extract, ofClock, secondsValue, Term.wellFormed_integer,
      Literal.wellFormed_decimal]

theorem sound_registerDateParts {r : Registry} (hr : r.Sound) : (registerDateParts r).Sound :=
  List.foldlRecOn _ _ hr fun _ hr part _ =>
    hr.registerOverload (sound_unaryOver _ _ _ fun _ ha hc => sound_extract part ha hc)

end DateParts

section Functions

/-! Only the casts register functions: every other step of `Registry.builtins` leaves the
functions as they are. -/

namespace Registry

-- proved by cases rather than by `rfl`, so that rewriting with it never asks the kernel to
-- unfold the registry it is applied to, and with it the building of every overload table
@[simp] theorem functions_register (r : Registry) (op : Operator) :
    (r.register op).functions = r.functions := by
  cases r
  rfl

@[simp] theorem functions_registerOverload (r : Registry) (b : OverloadBuilder) :
    (r.registerOverload b).functions = r.functions := by
  unfold registerOverload
  split <;> rfl

theorem functions_addAlias {r r' : Registry} {other target : String}
    (h : r.addAlias other target = .ok r') : r'.functions = r.functions := by
  simp only [addAlias, resolve] at h
  split at h
  · simp only [Outcome.ok_bind, Outcome.pure_eq_ok, Except.ok.injEq] at h
    subst h
    rfl
  · cases h

theorem functions_foldl {α : Type} (xs : List α) (step : Registry → α → Registry)
    (hstep : ∀ r x, (step r x).functions = r.functions) (r : Registry) :
    (xs.foldl step r).functions = r.functions := by
  induction xs generalizing r with
  | nil => rfl
  | cons x xs ih => rw [List.foldl_cons, ih, hstep]

end Registry

theorem functions_registerTermFunctions {r r' : Registry} (h : registerTermFunctions r = .ok r') :
    r'.functions = r.functions := by
  unfold registerTermFunctions at h
  obtain ⟨r₁, h₁, h₂⟩ := Outcome.bind_eq_ok_iff.mp h
  rw [Registry.functions_addAlias h₂]
  simp only [Registry.functions_register, Registry.functions_registerOverload]
  rw [Registry.functions_addAlias h₁]
  simp only [Registry.functions_registerOverload]

@[simp] theorem functions_registerArithmetic (r : Registry) :
    (registerArithmetic r).functions = r.functions := by
  unfold registerArithmetic
  rw [Registry.functions_foldl _ _ fun r ⟨_, _⟩ => Registry.functions_registerOverload r _,
    Registry.functions_foldl _ _ fun r _ => Registry.functions_registerOverload r _]

@[simp] theorem functions_registerComparison (r : Registry) :
    (registerComparison r).functions = r.functions :=
  Registry.functions_foldl _ _ (fun r _ => Registry.functions_registerOverload r _) r

@[simp] theorem functions_registerSpecialForms (r : Registry) :
    (registerSpecialForms r).functions = r.functions :=
  Registry.functions_foldl _ _ (fun r _ => Registry.functions_register r _) r

@[simp] theorem functions_registerStrings (r : Registry) :
    (registerStrings r).functions = r.functions := by
  simp [registerStrings]

@[simp] theorem functions_registerDateParts (r : Registry) :
    (registerDateParts r).functions = r.functions :=
  Registry.functions_foldl _ _ (fun r _ => Registry.functions_registerOverload r _) r

/-- The casts registered in a registry without functions, in order. -/
theorem functions_registerCasts {r : Registry} (hr : r.functions = []) :
    (registerCasts r).functions =
      [(Vocabulary.xsdString, Builtin.cast Vocabulary.xsdString toStringSources castToString),
       (Vocabulary.xsdBoolean, Builtin.cast Vocabulary.xsdBoolean scalarSources castToBoolean),
       (Vocabulary.xsdInteger, Builtin.cast Vocabulary.xsdInteger scalarSources castToInteger),
       (Vocabulary.xsdDecimal, Builtin.cast Vocabulary.xsdDecimal scalarSources castToDecimal),
       (Vocabulary.xsdFloat, Builtin.cast Vocabulary.xsdFloat scalarSources castToFloat),
       (Vocabulary.xsdDouble, Builtin.cast Vocabulary.xsdDouble scalarSources castToDouble),
       (Vocabulary.xsdDateTime,
         Builtin.cast Vocabulary.xsdDateTime [.dateTime, .string] castToDateTime)] := by
  simp [registerCasts, Registry.registerFunction, assocInsert, hr, Vocabulary.xsdString,
    Vocabulary.xsdBoolean, Vocabulary.xsdInteger, Vocabulary.xsdDecimal, Vocabulary.xsdFloat,
    Vocabulary.xsdDouble, Vocabulary.xsdDateTime, Vocabulary.xsd]

/-- The functions of the built-in registry are the seven casts. -/
theorem functions_builtins : Registry.builtins.functions =
    (registerCasts Registry.empty).functions := by
  unfold Registry.builtins
  rw [functions_registerDateParts, functions_registerCasts ?_, functions_registerCasts rfl]
  split
  · rw [functions_registerTermFunctions ‹_›]
    simp [Registry.empty]
  · simp [Registry.empty]

theorem name_cast (datatype : String) (sources : List Category) (f : Term → Outcome Term) :
    (Builtin.cast datatype sources f).name = datatype := by
  unfold Builtin.cast
  split
  · rename_i op hop
    simp only [OverloadBuilder.build, Outcome.bind_eq_ok_iff] at hop
    obtain ⟨table, -, hop⟩ := hop
    cases hop
    rfl
  · rfl

/-- A cast over distinct source categories is the table that runs its function on one argument
of each source category. -/
theorem cast_eq_overloaded (datatype : String) {sources : List Category} (hnodup : sources.Nodup)
    (f : Term → Outcome Term) :
    Builtin.cast datatype sources f =
      .overloaded ⟨datatype, 1, sources.map fun c => ([c], unary datatype f)⟩ := by
  have hentries : (unaryOver datatype sources f).entries =
      sources.map fun c => ([c], unary datatype f) := by
    simp [unaryOver, OverloadBuilder.onEach, OverloadBuilder.new, categoryTuples,
      ← List.map_eq_flatMap]
  have hbuild := (OverloadBuilder.build_isOk_iff (unaryOver datatype sources f)).2
    (by
      intro entry hentry
      rw [hentries] at hentry
      obtain ⟨c, -, rfl⟩ := List.mem_map.mp hentry
      rfl) (by
      rw [hentries, List.map_map]
      exact hnodup.map fun a b h => by simpa using h)
  unfold Builtin.cast
  rw [hbuild, hentries]
  rfl

/-- A cast over distinct source categories accepts each of them. -/
theorem accepts_cast (datatype : String) {sources : List Category} (hnodup : sources.Nodup)
    (f : Term → Outcome Term) {c : Category} (hc : c ∈ sources) :
    (Builtin.cast datatype sources f).Accepts [c] := by
  rw [cast_eq_overloaded datatype hnodup f]
  simp [Operator.Accepts, OverloadOperator.signatures, hc]

end Functions

/-- Every operator and cast function of the built-in registry keeps the contract. -/
theorem sound_builtins : Registry.builtins.Sound := by
  unfold Registry.builtins
  have hr := sound_registerStrings (sound_registerSpecialForms (sound_registerComparison
    (sound_registerArithmetic Registry.Sound.empty)))
  refine sound_registerDateParts (sound_registerCasts ?_)
  split
  · exact sound_registerTermFunctions hr ‹_›
  · exact hr

/-- On well-formed arguments of a tuple it registers, a built-in operator or cast function
refuses incomparable arguments with a type mismatch naming their categories, and otherwise
fails only with an arithmetic error, an invalid argument or a term without effective boolean
value. -/
theorem builtin_dispatch_safety {name : String} {op : Operator}
    (hop : (name, op) ∈ Registry.builtins.operators ∨ (name, op) ∈ Registry.builtins.functions)
    (fresh : Nat) {args : List Term} (hwf : ∀ t ∈ args, t.WellFormed)
    (hkey : op.Accepts (args.map Term.category)) :
    (IncomparableArguments op.name args →
      op.applyEvaluated fresh args = .error (.typeMismatch op.name (args.map Term.category))) ∧
    (¬IncomparableArguments op.name args → ∀ e, op.applyEvaluated fresh args = .error e →
      e.kind = .arithmetic ∨ e.kind = .invalidArgument ∨ e.kind = .notCoercible) := by
  have hsound : op.Sound := by
    rcases hop with hop | hop
    · exact sound_builtins.1 _ hop
    · exact sound_builtins.2 _ hop
  refine ⟨(hsound.applyEvaluated hwf hkey).1, fun hcomparable e he => ?_⟩
  have hs : Outcome.Sound (op.applyEvaluated fresh args) :=
    (hsound.applyEvaluated hwf hkey).2 hcomparable
  rw [he] at hs
  exact hs

/-- Casting the string `"abc"` to an integer is a registered call whose only possible
failures are about the data. -/
theorem integerCast_dispatch_safety :
    (Vocabulary.xsdInteger, Builtin.cast Vocabulary.xsdInteger scalarSources castToInteger) ∈
        Registry.builtins.functions ∧
      ¬IncomparableArguments Vocabulary.xsdInteger [Term.string "abc"] ∧
      ∀ e, (Builtin.cast Vocabulary.xsdInteger scalarSources castToInteger).applyEvaluated 0
          [Term.string "abc"] = .error e →
        e.kind = .arithmetic ∨ e.kind = .invalidArgument ∨ e.kind = .notCoercible := by
  have hmem : (Vocabulary.xsdInteger,
      Builtin.cast Vocabulary.xsdInteger scalarSources castToInteger) ∈
        Registry.builtins.functions := by
    rw [functions_builtins, functions_registerCasts rfl]
    simp
  have hcomparable : ¬IncomparableArguments Vocabulary.xsdInteger [Term.string "abc"] :=
    not_incomparableArguments_of_name (by decide) (by decide) _
  have hkey : (Builtin.cast Vocabulary.xsdInteger scalarSources castToInteger).Accepts
      ([Term.string "abc"].map Term.category) :=
    accepts_cast _ (by decide) _ (by decide)
  refine ⟨hmem, hcomparable, ?_⟩
  have h := (builtin_dispatch_safety (Or.inr hmem) 0
    (fun t ht => by simp only [List.mem_singleton] at ht; exact ht ▸ Term.wellFormed_string "abc")
    hkey).2
  rw [name_cast] at h
  exact h hcomparable

end SparqlExpr
